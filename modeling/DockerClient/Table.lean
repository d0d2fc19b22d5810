/-
**Tables**: finite maps from texts, in the order of their keys.

Labels, configuration sections and filters are maps whose order carries no meaning.  A table keeps
its entries in increasing order of the keys, so that two tables with the same entries are equal.

* `Table`, `Table.get?`, `Table.insert`, `Table.ofList`, `Table.mapValues`;
* `Table.get?_insert` — a lookup after an insertion;
* `Table.ext_get?` — **tables with the same lookups are equal**;
* `Table.get?_ofList` — of several entries for one key, the last counts.
-/

set_option relaxedAutoImplicit false
set_option autoImplicit false

namespace DockerClient

/-- A finite map from texts: entries in strictly increasing order of their keys. -/
structure Table (α : Type) where
  entries : List (String × α)
  ordered : entries.Pairwise fun a b => a.1 < b.1

namespace Table

variable {α β : Type}

/-! ### Entries in order -/

/-- The value of a key in a list of entries. -/
def find? (key : String) : List (String × α) → Option α
  | [] => none
  | (k, v) :: rest => if k = key then some v else find? key rest

/-- Entries in order with one of them set. -/
def place (key : String) (value : α) : List (String × α) → List (String × α)
  | [] => [(key, value)]
  | (k, v) :: rest =>
      if key < k then (key, value) :: (k, v) :: rest
      else if key = k then (key, value) :: rest
      else (k, v) :: place key value rest

theorem mem_place {key : String} {value : α} {entries : List (String × α)} {e : String × α}
    (h : e ∈ place key value entries) : e = (key, value) ∨ e ∈ entries := by
  induction entries with
  | nil => simpa [place] using h
  | cons head rest ih =>
      obtain ⟨k, v⟩ := head
      simp only [place] at h
      split at h
      · simpa using h
      · split at h
        · simp only [List.mem_cons] at h ⊢; grind
        · simp only [List.mem_cons] at h ⊢; grind

theorem lt_of_not {a b : String} (h : ¬a < b) (hne : a ≠ b) : b < a := by
  apply Classical.byContradiction
  intro hba
  exact hne (String.le_antisymm (String.not_lt.mp hba) (String.not_lt.mp h))

theorem pairwise_place (key : String) (value : α) {entries : List (String × α)}
    (h : entries.Pairwise fun a b => a.1 < b.1) :
    (place key value entries).Pairwise fun a b => a.1 < b.1 := by
  induction entries with
  | nil => simp [place]
  | cons head rest ih =>
      obtain ⟨k, v⟩ := head
      have hk := (List.pairwise_cons.mp h).1
      have hrest := List.Pairwise.of_cons h
      simp only [place]
      split
      · rename_i hlt
        refine List.Pairwise.cons ?_ h
        intro e he
        rcases List.mem_cons.mp he with rfl | he
        · exact hlt
        · exact String.lt_trans hlt (hk e he)
      · split
        · rename_i heq
          subst heq
          exact List.Pairwise.cons (hk) hrest
        · rename_i hnlt hne
          refine List.Pairwise.cons ?_ (ih hrest)
          intro e he
          rcases mem_place he with rfl | he
          · exact lt_of_not hnlt hne
          · exact hk e he

theorem find?_place (key key' : String) (value : α) {entries : List (String × α)}
    (h : entries.Pairwise fun a b => a.1 < b.1) :
    find? key' (place key value entries) = if key = key' then some value else find? key' entries := by
  induction entries with
  | nil => simp [place, find?]
  | cons head rest ih =>
      obtain ⟨k, v⟩ := head
      have ih := ih (List.Pairwise.of_cons h)
      simp only [place]
      split
      · simp [find?]
      · split
        · rename_i heq
          subst heq
          simp only [find?]
          split <;> simp_all
        · rename_i hne
          simp only [find?, ih]
          split <;> grind

theorem find?_eq_none_of_lt {key : String} {entries : List (String × α)}
    (h : ∀ e ∈ entries, key < e.1) : find? key entries = none := by
  induction entries with
  | nil => rfl
  | cons head rest ih =>
      obtain ⟨k, v⟩ := head
      have hk : key < k := h (k, v) (by simp)
      have hne : k ≠ key := by rintro rfl; exact String.lt_irrefl _ hk
      simp only [find?, if_neg hne]
      exact ih fun e he => h e (by simp [he])

theorem entries_ext {a b : List (String × α)} (ha : a.Pairwise fun x y => x.1 < y.1)
    (hb : b.Pairwise fun x y => x.1 < y.1) (h : ∀ key, find? key a = find? key b) : a = b := by
  induction a generalizing b with
  | nil =>
      cases b with
      | nil => rfl
      | cons e b => have := h e.1; simp [find?] at this
  | cons x a ih =>
      cases b with
      | nil => have := h x.1; simp [find?] at this
      | cons y b =>
          obtain ⟨kx, vx⟩ := x
          obtain ⟨ky, vy⟩ := y
          have hx := (List.pairwise_cons.mp ha).1
          have hy := (List.pairwise_cons.mp hb).1
          have key : kx = ky := by
            apply Classical.byContradiction
            intro hne
            by_cases hlt : kx < ky
            · have hnone : find? kx ((ky, vy) :: b) = none := by
                apply find?_eq_none_of_lt
                intro e he
                rcases List.mem_cons.mp he with rfl | he
                · exact hlt
                · exact String.lt_trans hlt (hy e he)
              have := h kx
              rw [hnone] at this
              simp [find?] at this
            · have hlt := lt_of_not hlt hne
              have hnone : find? ky ((kx, vx) :: a) = none := by
                apply find?_eq_none_of_lt
                intro e he
                rcases List.mem_cons.mp he with rfl | he
                · exact hlt
                · exact String.lt_trans hlt (hx e he)
              have := h ky
              rw [hnone] at this
              simp [find?] at this
          subst key
          have hv := h kx
          simp only [find?, if_true, Option.some.injEq] at hv
          subst hv
          congr 1
          apply ih (List.Pairwise.of_cons ha) (List.Pairwise.of_cons hb)
          intro key
          by_cases hk : kx = key
          · subst hk
            rw [find?_eq_none_of_lt hx, find?_eq_none_of_lt hy]
          · have := h key
            simpa [find?, hk] using this

/-! ### Tables -/

/-- The table without entries. -/
def empty : Table α := ⟨[], List.Pairwise.nil⟩

instance : EmptyCollection (Table α) := ⟨empty⟩

instance : Inhabited (Table α) := ⟨empty⟩

/-- The value of a key. -/
def get? (t : Table α) (key : String) : Option α := find? key t.entries

/-- The table with one entry set. -/
def insert (t : Table α) (key : String) (value : α) : Table α :=
  ⟨place key value t.entries, pairwise_place key value t.ordered⟩

/-- The table with one entry set, unless its key has a value already. -/
def insertNew (t : Table α) (key : String) (value : α) : Table α :=
  match t.get? key with
  | some _ => t
  | none => t.insert key value

/-- The entries of `s` over those of `t`. -/
def union (t s : Table α) : Table α :=
  s.entries.foldl (fun acc e => acc.insert e.1 e.2) t

/-- The table of a list of entries; of several for one key, the last counts. -/
def ofList (entries : List (String × α)) : Table α :=
  entries.foldl (fun acc e => acc.insert e.1 e.2) empty

/-- The same keys with other values. -/
def mapValues (f : α → β) (t : Table α) : Table β :=
  ⟨t.entries.map fun e => (e.1, f e.2), by
    rw [List.pairwise_map]; exact t.ordered⟩

/-- The table without an entry for a key. -/
def erase (t : Table α) (key : String) : Table α :=
  ⟨t.entries.filter fun e => e.1 ≠ key, t.ordered.filter _⟩

/-- Whether there is no entry. -/
def isEmpty (t : Table α) : Bool := t.entries.isEmpty

@[simp] theorem get?_empty (key : String) : (empty : Table α).get? key = none := rfl

theorem get?_insert (t : Table α) (key key' : String) (value : α) :
    (t.insert key value).get? key' = if key = key' then some value else t.get? key' :=
  find?_place key key' value t.ordered

@[simp] theorem get?_insert_self (t : Table α) (key : String) (value : α) :
    (t.insert key value).get? key = some value := by simp [get?_insert]

theorem get?_insertNew (t : Table α) (key key' : String) (value : α) :
    (t.insertNew key value).get? key' =
      if key = key' then (t.get? key).or (some value) else t.get? key' := by
  unfold insertNew
  split
  · rename_i v h
    split
    · rename_i heq; subst heq; simp [h]
    · rfl
  · rename_i h
    rw [get?_insert, h]
    rfl

/-- **Tables with the same lookups are equal.** -/
theorem ext_get? {s t : Table α} (h : ∀ key, s.get? key = t.get? key) : s = t := by
  obtain ⟨a, ha⟩ := s
  obtain ⟨b, hb⟩ := t
  have : a = b := entries_ext ha hb h
  subst this
  rfl

/-- The value a list of entries gives a key: that of the last entry with it. -/
def lastValue? (key : String) (entries : List (String × α)) : Option α :=
  (entries.reverse.find? fun e => e.1 == key).map (·.2)

theorem get?_foldl_insert (entries : List (String × α)) (t : Table α) (key : String) :
    (entries.foldl (fun acc e => acc.insert e.1 e.2) t).get? key =
      (lastValue? key entries).or (t.get? key) := by
  induction entries generalizing t with
  | nil => simp [lastValue?]
  | cons e rest ih =>
      simp only [List.foldl_cons, ih, get?_insert, lastValue?, List.reverse_cons, List.find?_append]
      by_cases h : e.1 = key
      · cases rest.reverse.find? (fun e => e.1 == key) <;> simp [h]
      · cases rest.reverse.find? (fun e => e.1 == key) <;> simp [h]

/-- Of several entries for one key, the last counts. -/
theorem get?_ofList (entries : List (String × α)) (key : String) :
    (ofList entries).get? key = lastValue? key entries := by
  simp [ofList, get?_foldl_insert]

theorem find?_map (f : α → β) (key : String) (entries : List (String × α)) :
    find? key (entries.map fun e => (e.1, f e.2)) = (find? key entries).map f := by
  induction entries with
  | nil => rfl
  | cons e rest ih => obtain ⟨k, v⟩ := e; simp only [List.map_cons, find?, ih]; split <;> rfl

@[simp] theorem get?_mapValues (f : α → β) (t : Table α) (key : String) :
    (t.mapValues f).get? key = (t.get? key).map f :=
  find?_map f key t.entries

instance [DecidableEq α] : DecidableEq (Table α) := fun s t =>
  decidable_of_iff (s.entries = t.entries)
    ⟨fun h => by obtain ⟨a, ha⟩ := s; obtain ⟨b, hb⟩ := t; simp at h; subst h; rfl,
     fun h => by rw [h]⟩

end Table

end DockerClient
