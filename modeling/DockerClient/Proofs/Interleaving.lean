import Mathlib.Logic.Function.Basic
import Mathlib.Logic.Relation

/-
**Calls that run at the same time.**

Handles are shared between any number of calls.  A call consists of moves, each of which sees and
changes what is shared as a whole; between two moves of one call, the other calls may make any
number of theirs.

* `Crowd`, `Crowd.Step`, `Crowd.Run` — what is shared and where every call stands, one move, and
  any number of moves in any order;
* `Crowd.Holds`, `Crowd.holds_run` — **an invariant of a run** from the moves of one call: a call
  keeps what it relies on itself, and the others do not disturb it;
* `Crowd.Solo`, `Crowd.run_of_solo` — what one call does while the others rest;
* `Lock`, `Lock.access` — a lock that many hold together or one holds alone, and what it grants;
* `Lock.access_leave`, `Lock.access_admit?`, `Lock.access_seize?` — each operation of a lock
  changes what one call is granted.
-/

set_option relaxedAutoImplicit false
set_option autoImplicit false

namespace DockerClient

/-! ### Runs -/

/-- What calls share, and where each call stands.  Calls are numbered; almost all of them have not
begun. -/
structure Crowd (σ P : Type) where
  shared : σ
  phase : Nat → P

namespace Crowd

variable {σ P : Type}

/-- What a call can do at once: what is shared and where it stands, before and after. -/
abbrev Moves (σ P : Type) := Nat → σ → P → σ → P → Prop

/-- The calls after one of them has moved; the others stay where they are. -/
def put (s : Crowd σ P) (c : Nat) (x : σ) (p : P) : Crowd σ P := ⟨x, Function.update s.phase c p⟩

@[simp] theorem put_shared (s : Crowd σ P) (c : Nat) (x : σ) (p : P) :
    (s.put c x p).shared = x := rfl

@[simp] theorem put_phase_self (s : Crowd σ P) (c : Nat) (x : σ) (p : P) :
    (s.put c x p).phase c = p := by simp [put]

theorem put_phase_of_ne (s : Crowd σ P) {c d : Nat} (h : d ≠ c) (x : σ) (p : P) :
    (s.put c x p).phase d = s.phase d := by simp [put, h]

@[simp] theorem put_self (s : Crowd σ P) (c : Nat) : s.put c s.shared (s.phase c) = s := by
  simp [put]

@[simp] theorem put_put (s : Crowd σ P) (c : Nat) (x y : σ) (p q : P) :
    (s.put c x p).put c y q = s.put c y q := by simp [put]

/-- One call makes a move. -/
inductive Step (moves : Moves σ P) (s : Crowd σ P) : Crowd σ P → Prop
  | of {c : Nat} {x : σ} {p : P} (h : moves c s.shared (s.phase c) x p) : Step moves s (s.put c x p)

/-- Any number of moves, of any calls in any order. -/
abbrev Run (moves : Moves σ P) : Crowd σ P → Crowd σ P → Prop :=
  Relation.ReflTransGen (Step moves)

/-- A condition on what is shared, and one on every call. -/
def Holds (G : σ → Prop) (A : Nat → σ → P → Prop) (s : Crowd σ P) : Prop :=
  G s.shared ∧ ∀ c, A c s.shared (s.phase c)

variable {moves : Moves σ P} {G : σ → Prop} {A : Nat → σ → P → Prop}

/-- A run goes on with one more move. -/
theorem Run.move {s t : Crowd σ P} (h : Run moves s t) (c : Nat) {y : σ} {p q : P}
    (hp : t.phase c = p) (hmove : moves c t.shared p y q) : Run moves s (t.put c y q) := by
  subst hp
  exact h.tail (.of hmove)

/-- **A move keeps an invariant** if the call that moves keeps its own condition and the one on what
is shared, and disturbs the condition of no other call. -/
theorem holds_step
    (self : ∀ c x p y q, G x → A c x p → moves c x p y q → G y ∧ A c y q)
    (others : ∀ c d x p y q r, d ≠ c → G x → A c x p → A d x r → moves c x p y q → A d y r)
    {s t : Crowd σ P} (hs : Holds G A s) (h : Step moves s t) : Holds G A t := by
  obtain ⟨hG, hA⟩ := hs
  cases h with
  | @of c x p hmove =>
      refine ⟨(self c _ _ _ _ hG (hA c) hmove).1, fun d => ?_⟩
      -- the call that moved has its own condition again, the others were not disturbed
      by_cases hd : d = c
      · subst hd
        rw [put_phase_self]
        exact (self d _ _ _ _ hG (hA d) hmove).2
      · rw [put_phase_of_ne s hd]
        exact others c d _ _ _ _ _ hd hG (hA c) (hA d) hmove

/-- **A run keeps an invariant** that its moves keep. -/
theorem holds_run
    (self : ∀ c x p y q, G x → A c x p → moves c x p y q → G y ∧ A c y q)
    (others : ∀ c d x p y q r, d ≠ c → G x → A c x p → A d x r → moves c x p y q → A d y r)
    {s t : Crowd σ P} (hs : Holds G A s) (h : Run moves s t) : Holds G A t := by
  induction h with
  | refl => exact hs
  | tail _ hstep ih => exact holds_step self others ih hstep

/-- The moves that one call makes while the others rest. -/
abbrev Solo (moves : Moves σ P) (c : Nat) : σ × P → σ × P → Prop :=
  Relation.ReflTransGen fun before after => moves c before.1 before.2 after.1 after.2

/-- Any call may go on while the others rest. -/
theorem run_of_solo {s : Crowd σ P} {c : Nat} {after : σ × P}
    (h : Solo moves c (s.shared, s.phase c) after) : Run moves s (s.put c after.1 after.2) := by
  induction h with
  | refl => rw [put_self]
  | @tail between last _ hmove ih =>
      have hrun := ih.move c (put_phase_self s c between.1 between.2) hmove
      rwa [put_put] at hrun

end Crowd

/-! ### Locks -/

/-- A lock that any number of calls hold together, or one call alone. -/
inductive Lock where
  | shared (holders : List Nat)
  | exclusive (holder : Nat)
deriving DecidableEq, Repr

/-- How a call holds a lock. -/
inductive Access where
  | out
  | together
  | alone
deriving DecidableEq, Repr

namespace Lock

/-- A lock that nobody holds. -/
def free : Lock := .shared []

/-- How a call holds the lock. -/
def access : Lock → Nat → Access
  | .shared holders, c => if c ∈ holders then .together else .out
  | .exclusive holder, c => if c = holder then .alone else .out

/-- A call joins those that hold the lock together; one that holds it alone keeps it out. -/
def admit? (c : Nat) : Lock → Option Lock
  | .shared holders => some (.shared (c :: holders))
  | .exclusive _ => none

/-- A call takes a lock that nobody holds for itself. -/
def seize? (c : Nat) : Lock → Option Lock
  | .shared [] => some (.exclusive c)
  | _ => none

/-- A call that holds the lock leaves it. -/
def leave (c : Nat) : Lock → Lock
  | .shared holders => .shared (holders.filter (· ≠ c))
  | .exclusive _ => free

@[simp] theorem access_free (c : Nat) : free.access c = .out := rfl

/-- At most one call holds a lock alone, and then nobody else holds it. -/
theorem access_eq_alone_iff {l : Lock} {c : Nat} :
    l.access c = .alone ↔ l = .exclusive c := by
  cases l with
  | shared holders => simp only [access]; split <;> simp
  | exclusive holder => simp only [access]; split <;> simp_all [eq_comm]

theorem access_of_alone {l : Lock} {c d : Nat} (hc : l.access c = .alone) (hd : d ≠ c) :
    l.access d = .out := by
  rw [access_eq_alone_iff.mp hc, access, if_neg hd]

theorem access_admit? {l l' : Lock} {c : Nat} (h : l.admit? c = some l') :
    l'.access = Function.update l.access c .together := by
  cases l with
  | exclusive holder => simp [admit?] at h
  | shared holders =>
      simp only [admit?, Option.some.injEq] at h
      subst h
      funext d
      by_cases hd : d = c
      · simp [access, hd]
      · rw [Function.update_of_ne hd]
        simp [access, hd]

theorem seize?_eq_some_iff {l l' : Lock} {c : Nat} :
    l.seize? c = some l' ↔ l = free ∧ l' = .exclusive c := by
  unfold seize? free
  split
  · simp [eq_comm]
  · rename_i h
    simp only [reduceCtorEq, false_iff, not_and]
    intro hl
    exact absurd hl h

theorem access_seize? {l l' : Lock} {c : Nat} (h : l.seize? c = some l') :
    l'.access = Function.update l.access c .alone := by
  obtain ⟨rfl, rfl⟩ := seize?_eq_some_iff.mp h
  funext d
  by_cases hd : d = c
  · simp [access, hd]
  · rw [Function.update_of_ne hd, access_free, access, if_neg hd]

theorem access_leave {l : Lock} {c : Nat} (h : l.access c ≠ .out) :
    (l.leave c).access = Function.update l.access c .out := by
  funext d
  cases l with
  | shared holders =>
      by_cases hd : d = c
      · simp [leave, access, hd]
      · rw [Function.update_of_ne hd]
        simp [leave, access, hd]
  | exclusive holder =>
      have hc : c = holder := by
        by_contra hne
        simp [access, hne] at h
      subst hc
      by_cases hd : d = c
      · simp [leave, hd]
      · rw [Function.update_of_ne hd, leave, access_free, access, if_neg hd]

end Lock

end DockerClient
