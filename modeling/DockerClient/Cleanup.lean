import DockerClient.Error.Removal
import DockerClient.Text.Quoted

/-
**Teardown.**

A registry collects named steps while a test runs and runs them afterwards, the last one first.  All
steps run, whatever the others lead to; an error that is not safe to ignore is a failure, and in the
end failures make the test panic.

* `Cleanup.Step`, `Cleanup.Registry` — named steps in the order of their registration;
* `Cleanup.runSteps`, `Cleanup.run` — runs the steps of a registry, with any way to perform one;
* `Cleanup.conclude`, `Cleanup.concludeScope` — **what comes of a registry and of a body with one**;
* `Cleanup.scope` — a body with a registry, and the teardown after it;
* `Cleanup.panicText` and other texts, given the words of what the library is built on.
-/

set_option relaxedAutoImplicit false
set_option autoImplicit false

namespace DockerClient.Cleanup

/-- A named step. -/
structure Step (α : Type) where
  name : String
  action : α

/-- Steps in the order of their registration. -/
abbrev Registry (α : Type) := List (Step α)

/-- A step that failed, and its error. -/
structure Failure where
  name : String
  error : Error

/-! ### Texts -/

/-- The name of the step that removes a resource. -/
def removalName (kind id : String) : String := "terminate " ++ kind ++ " " ++ id

/-- The name of the step that closes the client of a removal. -/
def closingName (kind id : String) : String := "close client for " ++ kind ++ " " ++ id

/-- What is said of a failure. -/
def Failure.text (w : Wording) (f : Failure) : String := f.name ++ ": " ++ f.error.text w

/-- The message of a failure. -/
def Failure.message (w : Wording) (f : Failure) : String :=
  "cleanup step \x60" ++ f.name ++ "\x60 failed: " ++ f.error.text w

/-- The panic of a test whose teardown failed. -/
def panicText (w : Wording) (failures : List Failure) : String :=
  "cleanup failed:\n" ++ "\n".intercalate (failures.map (Failure.text w))

/-- The message about failures after a body that panicked. -/
def afterPanicText (failures : Nat) : String :=
  toString failures ++ " cleanup steps failed after the test body panicked"

/-- The message about a registry that was dropped. -/
def droppedText (steps : Nat) : String :=
  "TestCleanup dropped with " ++ toString steps ++ " steps that never ran"

/-- The text of a registry for programmers. -/
def debugText {α : Type} (r : Registry α) : String :=
  "TestCleanup \x7b steps: " ++ Text.listed (r.map fun s => Text.quote s.name) ++ " \x7d"

/-! ### Running -/

variable {α σ : Type}

/-- What a step is to a test: a failure, unless it went well or its error may be ignored. -/
def failure? (name : String) : Except Error Unit → Option Failure
  | .ok _ => none
  | .error e => if e.isCleanupSafe then none else some ⟨name, e⟩

/-- Performs steps in the order of the list; failures are noted as they happen. -/
def runSteps (perform : α → σ → Except Error Unit × σ) (note : Failure → σ → σ) :
    List (Step α) → σ → List Failure × σ
  | [], s => ([], s)
  | step :: rest, s =>
      match perform step.action s with
      | (outcome, s) =>
          match failure? step.name outcome with
          | none => runSteps perform note rest s
          | some f =>
              match runSteps perform note rest (note f s) with
              | (fs, s) => (f :: fs, s)

/-- Runs all steps of a registry, the last one first. -/
def run (perform : α → σ → Except Error Unit × σ) (note : Failure → σ → σ) (r : Registry α)
    (s : σ) : List Failure × σ :=
  runSteps perform note r.reverse s

/-- **What comes of a registry**: nothing, or a panic. -/
def conclude (w : Wording) (failures : List Failure) : Except String Unit :=
  if failures.isEmpty then .ok () else .error (panicText w failures)

/-- **What comes of a body with a registry**: its value, unless there are failures, or its own
panic. -/
def concludeScope {β : Type} (w : Wording) (body : Except String β) (failures : List Failure) :
    Except String β :=
  match body with
  | .error panic => .error panic
  | .ok value =>
      match conclude w failures with
      | .ok _ => .ok value
      | .error panic => .error panic

/-- A body that registers steps and returns a value or panics, and the teardown after it.  Failures
after a body that panicked are counted. -/
def scope {β : Type} (w : Wording) (perform : α → σ → Except Error Unit × σ)
    (note : Failure → σ → σ) (count : Nat → σ → σ)
    (body : σ → (Except String β × Registry α) × σ) (s : σ) : Except String β × σ :=
  match body s with
  | ((outcome, r), s) =>
      match run perform note r s with
      | (failures, s) =>
          (concludeScope w outcome failures,
            match outcome with
            | .ok _ => s
            | .error _ => if failures.isEmpty then s else count failures.length s)

end DockerClient.Cleanup
