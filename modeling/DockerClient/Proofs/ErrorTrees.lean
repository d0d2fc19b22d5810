import DockerClient.Error.Basic
import Mathlib.Data.List.Basic

/-
**Errors as trees.**

An error is a tree: a layer has one error below it, a collection has several, and all other errors
are leaves.  `Error.kind` goes through layers, `Error.hasKind` goes through collections, and neither
does both.  So a collection inside a layer ends the search for a kind: it is *sealed*, and counts as
one error of kind `unknown`, whatever its members are.

* `Error.Layer`, `Error.wrap` — layers, and an error inside a stack of them;
* `Error.tree_induction` — **induction over trees**: leaves, layers and collections;
* `Error.core` — what is inside all layers of an error;
* `Error.leaves` — the leaves of a tree;
* `Error.members`, `Error.exposed`, `Error.sealed` — what is reached through collections alone, and
  which leaves and which collections that has inside its layers;
* `Error.mem_leaves_iff`, `Error.hasKind_iff` — **the leaves of a tree**, and **what the search for
  a kind answers**, both by what is exposed and what is sealed;
* `Error.hasKind_wrap` — inside a layer only the kind of the whole counts;
* `Error.hasKind_meets_leaves_iff` — **when the search answers for the leaves**, and when a layer
  changes its answer.
-/

set_option relaxedAutoImplicit false
set_option autoImplicit false

namespace DockerClient

namespace Error

/-! ### Trees -/

/-- What can be around one error. -/
inductive Layer where
  | context (text : String)
  | init

/-- The error inside a layer. -/
def Layer.around : Layer → Error → Error
  | .context text, e => .context text e
  | .init, e => .init e

/-- The error inside a stack of layers, the outermost first. -/
def wrap (layers : List Layer) (e : Error) : Error := layers.foldr Layer.around e

/-- Whether an error is neither a layer nor a collection. -/
def isLeaf : Error → Bool
  | .init _ | .context _ _ | .multiple _ => false
  | _ => true

/-- The errors of a collection; nothing else is one. -/
def collection? : Error → Option (List Error)
  | .multiple errors => some errors
  | _ => none

/-- **Induction over trees.** -/
@[elab_as_elim]
theorem tree_induction {motive : Error → Prop} (leaf : ∀ e, e.isLeaf = true → motive e)
    (layer : ∀ (l : Layer) e, motive e → motive (l.around e))
    (multiple : ∀ errors, (∀ e ∈ errors, motive e) → motive (.multiple errors)) (e : Error) :
    motive e := by
  cases e with
  | init cause => exact layer .init cause (tree_induction leaf layer multiple cause)
  | context text cause =>
      exact layer (.context text) cause (tree_induction leaf layer multiple cause)
  | multiple errors =>
      exact multiple errors fun e he => tree_induction leaf layer multiple e
  | _ => exact leaf _ rfl
termination_by e
decreasing_by
  · simp
  · simp only [context.sizeOf_spec]
    omega
  · have := List.sizeOf_lt_of_mem he
    simp only [Error.multiple.sizeOf_spec]
    omega

theorem collection?_of_isLeaf {e : Error} (h : e.isLeaf = true) : e.collection? = none := by
  cases e <;> simp_all [isLeaf, collection?]

@[simp] theorem collection?_around (layer : Layer) (e : Error) :
    (layer.around e).collection? = none := by
  cases layer <;> rfl

theorem eq_multiple_of_collection? {e : Error} {errors : List Error}
    (h : e.collection? = some errors) : e = .multiple errors := by
  cases e <;> simp_all [collection?]

/-! ### Through layers -/

/-- What is inside all layers of an error. -/
def core : Error → Error
  | .init cause => cause.core
  | .context _ cause => cause.core
  | e => e

@[simp] theorem core_around (layer : Layer) (e : Error) : (layer.around e).core = e.core := by
  cases layer <;> rfl

theorem core_of_isLeaf {e : Error} (h : e.isLeaf = true) : e.core = e := by
  cases e <;> simp_all [isLeaf, core]

@[simp] theorem kind_around (layer : Layer) (e : Error) : (layer.around e).kind = e.kind := by
  cases layer <;> rfl

@[simp] theorem kind_wrap (layers : List Layer) (e : Error) : (wrap layers e).kind = e.kind := by
  induction layers with
  | nil => rfl
  | cons layer layers ih => exact (kind_around layer _).trans ih

/-- Layers do not change the kind. -/
@[simp] theorem kind_core (e : Error) : e.core.kind = e.kind := by
  induction e using tree_induction with
  | leaf e h => rw [core_of_isLeaf h]
  | layer l e ih => rw [core_around, kind_around, ih]
  | multiple errors _ => rfl

/-- Inside all layers is a leaf or a collection. -/
theorem isLeaf_core_or (e : Error) :
    e.core.isLeaf = true ∨ ∃ errors, e.core = .multiple errors := by
  induction e using tree_induction with
  | leaf e h => exact .inl (by rw [core_of_isLeaf h, h])
  | layer l e ih => rwa [core_around]
  | multiple errors _ => exact .inr ⟨errors, rfl⟩

/-! ### Leaves -/

mutual

/-- The leaves of a tree. -/
def leaves : Error → List Error
  | .init cause => cause.leaves
  | .context _ cause => cause.leaves
  | .multiple errors => leavesOf errors
  | e => [e]

/-- The leaves of all trees of a list. -/
def leavesOf : List Error → List Error
  | [] => []
  | e :: rest => e.leaves ++ leavesOf rest

end

theorem leavesOf_eq_flatMap (errors : List Error) : leavesOf errors = errors.flatMap leaves := by
  induction errors with
  | nil => rfl
  | cons e rest ih => rw [leavesOf, ih, List.flatMap_cons]

theorem leaves_multiple (errors : List Error) : (multiple errors).leaves = leavesOf errors := by
  rw [leaves]

theorem leaves_of_isLeaf {e : Error} (h : e.isLeaf = true) : e.leaves = [e] := by
  cases e <;> simp_all [isLeaf, leaves]

@[simp] theorem leaves_around (layer : Layer) (e : Error) : (layer.around e).leaves = e.leaves := by
  cases layer <;> simp [Layer.around, leaves]

@[simp] theorem leaves_core (e : Error) : e.core.leaves = e.leaves := by
  induction e using tree_induction with
  | leaf e h => rw [core_of_isLeaf h]
  | layer l e ih => rw [core_around, leaves_around, ih]
  | multiple errors _ => rfl

/-! ### Through collections -/

mutual

/-- What is reached through collections, without opening a layer. -/
def members : Error → List Error
  | .multiple errors => membersOf errors
  | e => [e]

/-- What is reached through the collections of a list. -/
def membersOf : List Error → List Error
  | [] => []
  | e :: rest => e.members ++ membersOf rest

end

theorem membersOf_eq_flatMap (errors : List Error) : membersOf errors = errors.flatMap members := by
  induction errors with
  | nil => rfl
  | cons e rest ih => rw [membersOf, ih, List.flatMap_cons]

theorem members_of_collection? {e : Error} (h : e.collection? = none) : e.members = [e] := by
  cases e <;> simp_all [collection?, members]

theorem anyHasKind_eq_any (k : ErrorKind) (errors : List Error) :
    anyHasKind k errors = errors.any (hasKind k) := by
  induction errors with
  | nil => rfl
  | cons e rest ih => rw [anyHasKind, ih, List.any_cons]

theorem hasKind_of_collection? {e : Error} (k : ErrorKind) (h : e.collection? = none) :
    e.hasKind k = (e.kind == k) := by
  cases e <;> simp_all [collection?, hasKind]

/-- **The search for a kind** looks at the kinds of the members. -/
theorem hasKind_eq_any_members (k : ErrorKind) (e : Error) :
    e.hasKind k = e.members.any fun m => m.kind == k := by
  induction e using tree_induction with
  | leaf e h =>
      have h := collection?_of_isLeaf h
      simp [hasKind_of_collection? k h, members_of_collection? h]
  | layer l e _ =>
      have h := collection?_around l e
      simp [hasKind_of_collection? k h, members_of_collection? h]
  | multiple errors ih =>
      rw [hasKind, members, anyHasKind_eq_any, membersOf_eq_flatMap, List.any_flatMap]
      rw [Bool.eq_iff_iff, List.any_eq_true, List.any_eq_true]
      exact exists_congr fun e => and_congr_right fun he => by rw [ih e he]

/-- The leaves of a tree are those of its members. -/
theorem leaves_eq_flatMap_members (e : Error) : e.leaves = e.members.flatMap leaves := by
  induction e using tree_induction with
  | leaf e h => simp [members_of_collection? (collection?_of_isLeaf h)]
  | layer l e _ => simp [members_of_collection? (collection?_around l e)]
  | multiple errors ih =>
      rw [leaves_multiple, leavesOf_eq_flatMap, members, membersOf_eq_flatMap, List.flatMap_assoc,
        List.flatMap_def, List.flatMap_def, List.map_congr_left ih]

/-! ### Exposed and sealed -/

/-- The leaves that the search for a kind reaches. -/
def exposed (e : Error) : List Error := (e.members.map core).filter isLeaf

/-- The collections that the search for a kind does not open: those inside a layer. -/
def sealed (e : Error) : List (List Error) := (e.members.map core).filterMap collection?

theorem mem_exposed_iff {e leaf : Error} :
    leaf ∈ e.exposed ↔ ∃ m ∈ e.members, m.core = leaf ∧ leaf.isLeaf = true := by
  simp only [exposed, List.mem_filter, List.mem_map]
  constructor
  · rintro ⟨⟨m, hm, rfl⟩, hleaf⟩
    exact ⟨m, hm, rfl, hleaf⟩
  · rintro ⟨m, hm, rfl, hleaf⟩
    exact ⟨⟨m, hm, rfl⟩, hleaf⟩

theorem mem_sealed_iff {e : Error} {errors : List Error} :
    errors ∈ e.sealed ↔ ∃ m ∈ e.members, m.core = .multiple errors := by
  simp only [sealed, List.mem_filterMap, List.mem_map]
  constructor
  · rintro ⟨_, ⟨m, hm, rfl⟩, hcollection⟩
    exact ⟨m, hm, eq_multiple_of_collection? hcollection⟩
  · rintro ⟨m, hm, hcore⟩
    exact ⟨_, ⟨m, hm, hcore⟩, rfl⟩

/-- **The leaves of a tree** are exposed, or below a sealed collection. -/
theorem mem_leaves_iff {e leaf : Error} :
    leaf ∈ e.leaves ↔ leaf ∈ e.exposed ∨ ∃ errors ∈ e.sealed, leaf ∈ leavesOf errors := by
  rw [leaves_eq_flatMap_members, List.mem_flatMap]
  constructor
  · rintro ⟨m, hm, hleaf⟩
    rw [← leaves_core] at hleaf
    rcases isLeaf_core_or m with hcore | ⟨errors, hcore⟩
    · rw [leaves_of_isLeaf hcore, List.mem_singleton] at hleaf
      subst hleaf
      exact .inl (mem_exposed_iff.mpr ⟨m, hm, rfl, hcore⟩)
    · rw [hcore, leaves_multiple] at hleaf
      exact .inr ⟨errors, mem_sealed_iff.mpr ⟨m, hm, hcore⟩, hleaf⟩
  · rintro (hexposed | ⟨errors, hsealed, hleaf⟩)
    · obtain ⟨m, hm, rfl, hcore⟩ := mem_exposed_iff.mp hexposed
      refine ⟨m, hm, ?_⟩
      rw [← leaves_core, leaves_of_isLeaf hcore]
      exact List.mem_singleton_self _
    · obtain ⟨m, hm, hcore⟩ := mem_sealed_iff.mp hsealed
      refine ⟨m, hm, ?_⟩
      rwa [← leaves_core, hcore, leaves_multiple]

/-- **What the search for a kind answers**: whether an exposed leaf has the kind; and every sealed
collection counts as `unknown`. -/
theorem hasKind_iff {e : Error} {k : ErrorKind} :
    e.hasKind k = true ↔
      (∃ leaf ∈ e.exposed, leaf.kind = k) ∨ (k = .unknown ∧ e.sealed ≠ []) := by
  have hsearch : e.hasKind k = true ↔ ∃ m ∈ e.members, m.core.kind = k := by
    simp [hasKind_eq_any_members]
  rw [hsearch]
  constructor
  · rintro ⟨m, hm, rfl⟩
    rcases isLeaf_core_or m with hcore | ⟨errors, hcore⟩
    · exact .inl ⟨m.core, mem_exposed_iff.mpr ⟨m, hm, rfl, hcore⟩, rfl⟩
    · refine .inr ⟨by rw [hcore]; rfl, ?_⟩
      exact List.ne_nil_of_mem (mem_sealed_iff.mpr ⟨m, hm, hcore⟩)
  · rintro (⟨leaf, hexposed, rfl⟩ | ⟨rfl, hsealed⟩)
    · obtain ⟨m, hm, rfl, -⟩ := mem_exposed_iff.mp hexposed
      exact ⟨m, hm, rfl⟩
    · obtain ⟨errors, herrors⟩ := List.exists_mem_of_ne_nil _ hsealed
      obtain ⟨m, hm, hcore⟩ := mem_sealed_iff.mp herrors
      exact ⟨m, hm, by rw [hcore]; rfl⟩

/-- Inside a layer only the kind of the whole counts. -/
theorem hasKind_wrap (k : ErrorKind) (layer : Layer) (layers : List Layer) (e : Error) :
    (wrap (layer :: layers) e).hasKind k = (e.kind == k) := by
  have h : (wrap (layer :: layers) e).collection? = none := collection?_around layer _
  rw [hasKind_of_collection? k h, kind_wrap]

/-- A layer changes what is found of a kind other than `unknown` exactly around a collection in
which something of the kind is found. -/
theorem hasKind_wrap_eq_iff {k : ErrorKind} (hk : k ≠ .unknown) (layer : Layer)
    (layers : List Layer) (e : Error) :
    (wrap (layer :: layers) e).hasKind k = e.hasKind k ↔
      (e.collection? = none ∨ e.hasKind k = false) := by
  rw [hasKind_wrap]
  cases hcollection : e.collection? with
  | none => simp [hasKind_of_collection? k hcollection]
  | some errors =>
      have hkind : (e.kind == k) = false := by
        rw [eq_multiple_of_collection? hcollection]
        exact beq_eq_false_iff_ne.mpr (Ne.symm hk)
      rw [hkind]
      exact ⟨fun h => .inr h.symm, fun h => (h.resolve_left (Option.some_ne_none _)).symm⟩

/-- **When the search for a kind answers for the leaves.**  It does for a tree and a kind exactly if
an exposed leaf has the kind, or else if the leaves below sealed collections have it exactly in the
case that something is sealed and the kind is `unknown`.  And layers keep what is said about missing
things and about conflicts, except around a collection in which one is found. -/
theorem hasKind_meets_leaves_iff (e : Error) (k : ErrorKind) (layer : Layer)
    (layers : List Layer) :
    ((e.hasKind k = true ↔ ∃ leaf ∈ e.leaves, leaf.kind = k) ↔
      (∃ leaf ∈ e.exposed, leaf.kind = k) ∨
        ((k = .unknown ∧ e.sealed ≠ []) ↔
          ∃ errors ∈ e.sealed, ∃ leaf ∈ leavesOf errors, leaf.kind = k)) ∧
    ((wrap (layer :: layers) e).isNotFound = e.isNotFound ↔
      (e.collection? = none ∨ e.isNotFound = false)) ∧
    ((wrap (layer :: layers) e).isConflict = e.isConflict ↔
      (e.collection? = none ∨ e.isConflict = false)) := by
  refine ⟨?_, hasKind_wrap_eq_iff (by decide) layer layers e,
    hasKind_wrap_eq_iff (by decide) layer layers e⟩
  have hleaves : (∃ leaf ∈ e.leaves, leaf.kind = k) ↔
      (∃ leaf ∈ e.exposed, leaf.kind = k) ∨
        ∃ errors ∈ e.sealed, ∃ leaf ∈ leavesOf errors, leaf.kind = k := by
    constructor
    · rintro ⟨leaf, hleaf, hkind⟩
      rcases mem_leaves_iff.mp hleaf with hexposed | ⟨errors, hsealed, hleaf⟩
      · exact .inl ⟨leaf, hexposed, hkind⟩
      · exact .inr ⟨errors, hsealed, leaf, hleaf, hkind⟩
    · rintro (⟨leaf, hexposed, hkind⟩ | ⟨errors, hsealed, leaf, hleaf, hkind⟩)
      · exact ⟨leaf, mem_leaves_iff.mpr (.inl hexposed), hkind⟩
      · exact ⟨leaf, mem_leaves_iff.mpr (.inr ⟨errors, hsealed, hleaf⟩), hkind⟩
  rw [hasKind_iff, hleaves]
  by_cases hexposed : ∃ leaf ∈ e.exposed, leaf.kind = k
  · simp only [hexposed, true_or]
  · simp only [hexposed, false_or]

/-- A missing network in a collection is found, but not inside a layer. -/
theorem hasKind_misses_sealed_leaf :
    (multiple [.notFound "n1"]).isNotFound = true ∧
      (wrap [.context "removing the networks"] (multiple [.notFound "n1"])).isNotFound = false ∧
      ¬((wrap [.context "removing the networks"] (multiple [.notFound "n1"])).hasKind .notFound =
          true ↔
        ∃ leaf ∈ (wrap [.context "removing the networks"] (multiple [.notFound "n1"])).leaves,
          leaf.kind = .notFound) := by
  decide

end Error

end DockerClient
