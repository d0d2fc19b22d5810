import DockerClient.Error.Basic
import DockerClient.Text.Blank
import DockerClient.Text.Cut

/-
**Errors that a teardown may ignore.**

A resource that is gone needs no removal, and one that is being removed needs none either.  The
daemon reports the latter as a conflict whose message names the kind of the resource.

* `removalKind?` — the kind named by the leftmost "removal of … is already in progress";
* `isRemovalInProgress` — whether a message is such a report, for any or for one kind;
* `Error.isCleanupSafe`, `isCleanupSafe` — whether an error may be ignored.
-/

set_option relaxedAutoImplicit false
set_option autoImplicit false

namespace DockerClient

/-! ### The daemon's report -/

/-- How a report begins. -/
def removalOpening : List Char := "removal of ".toList

/-- How a report ends. -/
def removalClosing : List Char := " is already in progress".toList

/-- The kind in a report that starts with the text: the word after the opening, if a space and, on
the same line, the closing follow it. -/
def removalHere? (text : List Char) : Option (List Char) :=
  match removalOpening.isPrefixOf? text with
  | none => none
  | some rest =>
      let word := rest.takeWhile fun c => !Text.isBlank c
      match word, rest.dropWhile fun c => !Text.isBlank c with
      | _ :: _, ' ' :: tail =>
          if (Text.cutAt removalClosing (tail.takeWhile (· ≠ '\n'))).isSome then some word else none
      | _, _ => none

/-- The kind in the leftmost report of a text. -/
def removalKind? : List Char → Option (List Char)
  | [] => none
  | c :: rest =>
      match removalHere? (c :: rest) with
      | some word => some word
      | none => removalKind? rest

/-- Whether a message reports that a removal, of the given kind if one is given, is in progress. -/
def isRemovalInProgress (kind : Option String) (message : String) : Bool :=
  match removalKind? message.toList with
  | none => false
  | some word =>
      match kind with
      | none => true
      | some k => word == k.toList

/-! ### Teardown -/

/-- Whether a single error may be ignored: nothing was found, or its removal is in progress. -/
def Error.isSafeLeaf (e : Error) : Bool :=
  match e.kind with
  | .notFound => true
  | .conflict =>
      match e.daemonMessage with
      | some message => isRemovalInProgress none message
      | none => false
  | _ => false

mutual

/-- Whether a teardown may ignore the error: layers are looked through, and a collection is safe
only if all of its members are. -/
def Error.isCleanupSafe : Error → Bool
  | .multiple errors => Error.allCleanupSafe errors
  | .context _ cause => cause.isCleanupSafe
  | .init cause => cause.isCleanupSafe
  | e => e.isSafeLeaf

/-- Whether a teardown may ignore all errors of a list. -/
def Error.allCleanupSafe : List Error → Bool
  | [] => true
  | e :: rest => e.isCleanupSafe && Error.allCleanupSafe rest

end

/-- Whether a teardown may go on after an outcome: there is no error, or a safe one. -/
def isCleanupSafe : Option Error → Bool
  | none => true
  | some e => e.isCleanupSafe

end DockerClient
