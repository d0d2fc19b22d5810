import DockerClient.Error.Removal
import DockerClient.Proofs.ErrorTrees

/-
**Which errors a teardown ignores** is decided by the leaves of an error.

The verdict goes down through layers and collections alike, so nothing but the leaves counts: each of
them has to say that the resource is gone, or that it is being removed already.  Where the leaves are
in the tree is of no importance.

* `Error.Ignorable`, `Error.isSafeLeaf_iff` — **leaves that are ignored**;
* `Error.isCleanupSafe_eq_all` — the verdict is that of all leaves;
* `Error.Part`, `Error.mem_leaves_iff_part` — **the parts of a tree**; its leaves are those of its
  parts that are leaves;
* `Error.Rearranged`, `Error.leaves_perm` — trees with more layers, with their members in another
  order or with less nesting, and **the leaves that they have in common**;
* `isCleanupSafe_judges_leaves` — **the verdict of a teardown**.
-/

set_option relaxedAutoImplicit false
set_option autoImplicit false

namespace DockerClient

namespace Error

/-! ### Leaves -/

/-- **A leaf that is ignored**: something was not found, or the daemon responded with a conflict, and
says that a removal is in progress. -/
def Ignorable (leaf : Error) : Prop :=
  leaf.kind = .notFound ∨
    ∃ status message, leaf = .daemon (.response status message) ∧ leaf.kind = .conflict ∧
      isRemovalInProgress none message = true

/-- Of the leaves only a response of the daemon is a conflict. -/
theorem exists_response_of_kind {e : Error} (hleaf : e.isLeaf = true) (h : e.kind = .conflict) :
    ∃ status message, e = .daemon (.response status message) := by
  cases e with
  | daemon fault =>
      cases fault with
      | response status message => exact ⟨status, message, rfl⟩
      | _ => simp [kind, DaemonFault.kind] at h
  | init | context | multiple => simp [isLeaf] at hleaf
  | _ => simp [kind] at h

theorem isSafeLeaf_iff {e : Error} (hleaf : e.isLeaf = true) :
    e.isSafeLeaf = true ↔ e.Ignorable := by
  unfold isSafeLeaf Ignorable
  cases hkind : e.kind with
  | conflict =>
      obtain ⟨status, message, rfl⟩ := exists_response_of_kind hleaf hkind
      simp [daemonMessage]
  | _ => simp

theorem isCleanupSafe_of_isLeaf {e : Error} (h : e.isLeaf = true) :
    e.isCleanupSafe = e.isSafeLeaf := by
  cases e <;> simp_all [isLeaf, isCleanupSafe]

@[simp] theorem isCleanupSafe_around (layer : Layer) (e : Error) :
    (layer.around e).isCleanupSafe = e.isCleanupSafe := by
  cases layer <;> simp [Layer.around, isCleanupSafe]

theorem allCleanupSafe_eq_all (errors : List Error) :
    allCleanupSafe errors = errors.all isCleanupSafe := by
  induction errors with
  | nil => rfl
  | cons e rest ih => rw [allCleanupSafe, ih, List.all_cons]

/-- **The verdict is that of all leaves.** -/
theorem isCleanupSafe_eq_all (e : Error) : e.isCleanupSafe = e.leaves.all isSafeLeaf := by
  induction e using tree_induction with
  | leaf e h => rw [isCleanupSafe_of_isLeaf h, leaves_of_isLeaf h, List.all_cons,
      List.all_nil, Bool.and_true]
  | layer l e ih => rw [isCleanupSafe_around, leaves_around, ih]
  | multiple errors ih =>
      rw [isCleanupSafe, allCleanupSafe_eq_all, leaves_multiple, leavesOf_eq_flatMap,
        List.all_flatMap, Bool.eq_iff_iff, List.all_eq_true, List.all_eq_true]
      exact forall₂_congr fun e he => by rw [ih e he]

/-! ### Parts -/

/-- **The parts of a tree**: the tree, and the parts of what is right below it. -/
inductive Part (part : Error) : Error → Prop
  | whole : Part part part
  | layer {e : Error} (l : Layer) (h : Part part e) : Part part (l.around e)
  | member {e : Error} {errors : List Error} (hmem : e ∈ errors) (h : Part part e) :
      Part part (.multiple errors)

/-- The leaves of a part are leaves of the tree. -/
theorem leaves_subset_of_part {part e : Error} (h : Part part e) : part.leaves ⊆ e.leaves := by
  induction h with
  | whole => exact List.Subset.refl _
  | layer l _ ih => rwa [leaves_around]
  | @member e errors hmem _ ih =>
      intro leaf hleaf
      rw [leaves_multiple, leavesOf_eq_flatMap, List.mem_flatMap]
      exact ⟨e, hmem, ih hleaf⟩

/-- **The leaves of a tree** are its parts that are leaves. -/
theorem mem_leaves_iff_part {e leaf : Error} :
    leaf ∈ e.leaves ↔ leaf.isLeaf = true ∧ Part leaf e := by
  constructor
  · intro hmem
    induction e using tree_induction with
    | leaf e h =>
        rw [leaves_of_isLeaf h, List.mem_singleton] at hmem
        subst hmem
        exact ⟨h, .whole⟩
    | layer l e ih =>
        rw [leaves_around] at hmem
        exact ⟨(ih hmem).1, .layer l (ih hmem).2⟩
    | multiple errors ih =>
        rw [leaves_multiple, leavesOf_eq_flatMap, List.mem_flatMap] at hmem
        obtain ⟨e, he, hleaf⟩ := hmem
        exact ⟨(ih e he hleaf).1, .member he (ih e he hleaf).2⟩
  · rintro ⟨hleaf, hpart⟩
    refine leaves_subset_of_part hpart ?_
    rw [leaves_of_isLeaf hleaf]
    exact List.mem_singleton_self leaf

/-! ### Other trees with the same leaves -/

/-- **Trees that differ in their shape only**: one gets from one to the other by adding and taking
away layers, by changing the order of members, and by flattening collections into the ones that they
are members of, anywhere in the tree. -/
inductive Rearranged : Error → Error → Prop
  | refl (e : Error) : Rearranged e e
  | symm {e f : Error} (h : Rearranged e f) : Rearranged f e
  | trans {e f g : Error} (h : Rearranged e f) (h' : Rearranged f g) : Rearranged e g
  | layer (l : Layer) (e : Error) : Rearranged e (l.around e)
  | order {errors others : List Error} (h : errors.Perm others) :
      Rearranged (.multiple errors) (.multiple others)
  | flatten (before inner after : List Error) :
      Rearranged (.multiple (before ++ .multiple inner :: after))
        (.multiple (before ++ inner ++ after))
  | inside (l : Layer) {e f : Error} (h : Rearranged e f) : Rearranged (l.around e) (l.around f)
  | member (before after : List Error) {e f : Error} (h : Rearranged e f) :
      Rearranged (.multiple (before ++ e :: after)) (.multiple (before ++ f :: after))

/-- **Trees that differ in their shape only have the same leaves**, in some order. -/
theorem leaves_perm {e f : Error} (h : Rearranged e f) : e.leaves.Perm f.leaves := by
  induction h with
  | refl e => exact .refl _
  | symm _ ih => exact ih.symm
  | trans _ _ ih ih' => exact ih.trans ih'
  | layer l e => rw [leaves_around]
  | order h =>
      simp only [leaves_multiple, leavesOf_eq_flatMap]
      exact h.flatMap_right leaves
  | flatten before inner after =>
      simp only [leaves_multiple, leavesOf_eq_flatMap, List.flatMap_append, List.flatMap_cons,
        List.append_assoc]
      exact .refl _
  | inside l _ ih => rwa [leaves_around, leaves_around]
  | member before after _ ih =>
      simp only [leaves_multiple, leavesOf_eq_flatMap, List.flatMap_append, List.flatMap_cons]
      exact (ih.append_right _).append_left _

end Error

/-! ### The verdict -/

/-- **The verdict of a teardown.**  It goes on without an error.  It ignores an error exactly if each
part that is a leaf says that something was not found, or is the daemon's report that a removal is in
progress.  So the verdict is the same for trees that differ in their shape only, and one part that is
not ignored is enough, wherever it is. -/
theorem isCleanupSafe_judges_leaves :
    isCleanupSafe none = true ∧
    (∀ e : Error, isCleanupSafe (some e) = true ↔
      ∀ leaf : Error, leaf.isLeaf = true → Error.Part leaf e → leaf.Ignorable) ∧
    (∀ e f : Error, Error.Rearranged e f → isCleanupSafe (some e) = isCleanupSafe (some f)) ∧
    (∀ part e : Error, Error.Part part e → isCleanupSafe (some part) = false →
      isCleanupSafe (some e) = false) := by
  have hleaves (e : Error) : isCleanupSafe (some e) = true ↔
      ∀ leaf ∈ e.leaves, leaf.isSafeLeaf = true := by
    rw [isCleanupSafe, Error.isCleanupSafe_eq_all, List.all_eq_true]
  refine ⟨rfl, ?_, ?_, ?_⟩
  · intro e
    rw [hleaves]
    constructor
    · intro hall leaf hleaf hpart
      have hmem : leaf ∈ e.leaves := Error.mem_leaves_iff_part.mpr ⟨hleaf, hpart⟩
      exact (Error.isSafeLeaf_iff hleaf).mp (hall leaf hmem)
    · intro hall leaf hmem
      obtain ⟨hleaf, hpart⟩ := Error.mem_leaves_iff_part.mp hmem
      exact (Error.isSafeLeaf_iff hleaf).mpr (hall leaf hleaf hpart)
  · intro e f h
    rw [Bool.eq_iff_iff, hleaves, hleaves]
    exact forall_congr' fun leaf => imp_congr_left (Error.leaves_perm h).mem_iff
  · intro part e hpart hunsafe
    rw [Bool.eq_false_iff, ne_eq, hleaves] at hunsafe ⊢
    intro hall
    exact hunsafe fun leaf hmem => hall leaf (Error.leaves_subset_of_part hpart hmem)

/-- The daemon's report that a network is being removed already. -/
def beingRemoved : Error :=
  .daemon (.response 409 "removal of network n1 is already in progress")

/-- A collection in a collection, and the same flattened, in another order and inside a layer; and a
leaf that is not ignored, two collections and a layer deep. -/
theorem isCleanupSafe_judges_leaves_nested :
    isCleanupSafe (some (.multiple [.notFound "n2", .multiple [beingRemoved]])) =
        isCleanupSafe (some (.init (.multiple [beingRemoved, .notFound "n2"]))) ∧
      isCleanupSafe (some (.multiple [.notFound "n2", .multiple [.context "n3" .closed]])) =
        false := by
  have hflat : Error.Rearranged (.multiple [.notFound "n2", .multiple [beingRemoved]])
      (.multiple [.notFound "n2", beingRemoved]) := .flatten [.notFound "n2"] [beingRemoved] []
  have horder : Error.Rearranged (.multiple [.notFound "n2", beingRemoved])
      (.multiple [beingRemoved, .notFound "n2"]) := .order (.swap ..)
  have hpart : Error.Part .closed (.multiple [.notFound "n2", .multiple [.context "n3" .closed]]) :=
    .member (List.mem_cons_of_mem _ List.mem_cons_self)
      (.member List.mem_cons_self (.layer (.context "n3") .whole))
  exact ⟨isCleanupSafe_judges_leaves.2.2.1 _ _ ((hflat.trans horder).trans (.layer .init _)),
    isCleanupSafe_judges_leaves.2.2.2 _ _ hpart (by decide)⟩

end DockerClient
