import DockerClient.Config.Keys
import DockerClient.Proofs.ByteOrder
import DockerClient.Proofs.RegistryNames

/-
**One key for each host.**

A configuration may name a host in several ways, and its sections are maps, which are gone through
in no order that could be relied on.  `Config.byHost` sorts the entries and keeps the first one for
each host.  This module says what is kept without any sorting, and that the order in which the
entries come is of no importance.

* `Table.get?_eq_some_iff_mem`, `Table.nodup_keys` — tables by their entries;
* `Config.before_trans`, `Config.before_total` — names win in a total order;
* `Config.find?_mergeSort_before` — the first entry for a host wins over all others for it;
* `Config.Chosen`, `Config.Chosen.unique` — **the value for a host**: that of its normalized name,
  and else that of its smallest name; there is only one;
* `Config.isSome_get?_byHost_iff` — the hosts that something is kept for;
* `Config.get?_byHost_iff` — **what is kept for a host is the value for it**;
* `Config.byHost_perm` — **the order of the entries is of no importance**.
-/

set_option relaxedAutoImplicit false
set_option autoImplicit false

namespace DockerClient

/-! ### Tables by their entries -/

namespace Table

variable {α : Type}

theorem mem_of_find? {key : String} {value : α} {entries : List (String × α)}
    (h : find? key entries = some value) : (key, value) ∈ entries := by
  induction entries with
  | nil => simp [find?] at h
  | cons e rest ih =>
      obtain ⟨k, v⟩ := e
      rw [find?] at h
      split at h
      · rename_i hk
        cases h
        rw [hk]
        exact List.mem_cons_self
      · exact List.mem_cons_of_mem _ (ih h)

theorem find?_of_mem {key : String} {value : α} {entries : List (String × α)}
    (hordered : entries.Pairwise fun a b => a.1 < b.1) (h : (key, value) ∈ entries) :
    find? key entries = some value := by
  induction entries with
  | nil => cases h
  | cons e rest ih =>
      obtain ⟨k, v⟩ := e
      rcases List.mem_cons.mp h with heq | hmem
      · cases heq
        exact if_pos rfl
      · have hlt : k < key := (List.pairwise_cons.mp hordered).1 _ hmem
        have hne : k ≠ key := by
          rintro rfl
          exact String.lt_irrefl _ hlt
        rw [find?, if_neg hne]
        exact ih (List.Pairwise.of_cons hordered) hmem

theorem get?_eq_some_iff_mem {t : Table α} {key : String} {value : α} :
    t.get? key = some value ↔ (key, value) ∈ t.entries :=
  ⟨mem_of_find?, find?_of_mem t.ordered⟩

theorem isSome_get?_iff {t : Table α} {key : String} :
    (t.get? key).isSome = true ↔ key ∈ t.entries.map Prod.fst := by
  rw [Option.isSome_iff_exists, List.mem_map]
  constructor
  · rintro ⟨value, h⟩
    exact ⟨(key, value), get?_eq_some_iff_mem.mp h, rfl⟩
  · rintro ⟨e, h, rfl⟩
    exact ⟨e.2, get?_eq_some_iff_mem.mpr h⟩

/-- A table has each key once. -/
theorem nodup_keys (t : Table α) : (t.entries.map Prod.fst).Nodup := by
  rw [List.Nodup, List.pairwise_map]
  refine t.ordered.imp ?_
  intro a b hlt heq
  rw [heq] at hlt
  exact String.lt_irrefl _ hlt

/-- What a table has was in the list it was made of. -/
theorem mem_of_mem_ofList {entries : List (String × α)} {e : String × α}
    (h : e ∈ (ofList entries).entries) : e ∈ entries := by
  have hget : (ofList entries).get? e.1 = some e.2 := get?_eq_some_iff_mem.mpr h
  rw [get?_ofList, lastValue?, Option.map_eq_some_iff] at hget
  obtain ⟨found, hfound, hvalue⟩ := hget
  have hkey : found.1 = e.1 := by simpa using List.find?_some hfound
  have hmem : found ∈ entries := List.mem_reverse.mp (List.mem_of_find?_eq_some hfound)
  rwa [Prod.ext hkey hvalue] at hmem

/-- **The entries of a table make the same table**, in whatever order they come. -/
theorem ofList_of_perm {t : Table α} {order : List (String × α)} (h : order.Perm t.entries) :
    ofList order = t := by
  refine ext_get? fun key => Option.ext fun value => ?_
  constructor
  · intro hvalue
    exact get?_eq_some_iff_mem.mpr
      (h.mem_iff.mp (mem_of_mem_ofList (get?_eq_some_iff_mem.mp hvalue)))
  · intro hvalue
    have hmem : (key, value) ∈ order := h.mem_iff.mpr (get?_eq_some_iff_mem.mp hvalue)
    have hsome : ((ofList order).get? key).isSome = true := by
      rw [get?_ofList, lastValue?, Option.isSome_map, List.find?_isSome]
      exact ⟨_, List.mem_reverse.mpr hmem, by simp⟩
    -- the value that is found is in the table, and the table has one value for a key
    obtain ⟨found, hfound⟩ := Option.isSome_iff_exists.mp hsome
    have hfound' : t.get? key = some found := get?_eq_some_iff_mem.mpr
      (h.mem_iff.mp (mem_of_mem_ofList (get?_eq_some_iff_mem.mp hfound)))
    rw [hfound, ← hfound', hvalue]

/-- Of several entries for one key, the first counts if no entry replaces another. -/
theorem get?_foldl_insertNew (f : String → String) (entries : List (String × α)) (t : Table α)
    (key : String) :
    (entries.foldl (fun t e => t.insertNew (f e.1) e.2) t).get? key =
      (t.get? key).or ((entries.find? fun e => f e.1 == key).map (·.2)) := by
  induction entries generalizing t with
  | nil => simp
  | cons e rest ih =>
      rw [List.foldl_cons, ih, get?_insertNew, List.find?_cons]
      by_cases h : f e.1 = key
      · rw [if_pos h, h]
        simp
      · have hbeq : (f e.1 == key) = false := beq_eq_false_iff_ne.mpr h
        rw [if_neg h, hbeq]

end Table

namespace Config

variable {α : Type}

/-! ### The order in which names win -/

theorem before_iff {a b : String × α} :
    before a b = true ↔ (isOwnKey a.1 = true ∧ isOwnKey b.1 = false) ∨
      (isOwnKey a.1 = isOwnKey b.1 ∧ a.1 ≤ b.1) := by
  unfold before
  cases isOwnKey a.1 <;> cases isOwnKey b.1 <;> simp

theorem before_trans (a b c : String × α) (hab : before a b = true) (hbc : before b c = true) :
    before a c = true := by
  rw [before_iff] at hab hbc ⊢
  rcases hab with ⟨ha, hb⟩ | ⟨hown, hab⟩
  · rcases hbc with ⟨hb', -⟩ | ⟨hown, -⟩
    · exact absurd (hb.symm.trans hb') (by decide)
    · exact .inl ⟨ha, hown.symm.trans hb⟩
  · rcases hbc with ⟨hb, hc⟩ | ⟨hown', hbc⟩
    · exact .inl ⟨hown.trans hb, hc⟩
    · exact .inr ⟨hown.trans hown', String.le_trans hab hbc⟩

theorem before_total (a b : String × α) : (before a b || before b a) = true := by
  rw [Bool.or_eq_true, before_iff, before_iff]
  rcases String.le_total a.1 b.1 with hab | hba <;>
    cases isOwnKey a.1 <;> cases isOwnKey b.1 <;> simp_all

/-- **The first entry for a host wins** over all others for it. -/
theorem find?_mergeSort_before {entries : List (String × α)} {host : String} {e : String × α}
    (h : (entries.mergeSort before).find? (fun e => Registry.authKey e.1 == host) = some e) :
    e ∈ entries ∧ Registry.authKey e.1 = host ∧
      ∀ other ∈ entries, Registry.authKey other.1 = host → other = e ∨ before e other = true := by
  obtain ⟨hhost, earlier, later, hsplit, hearlier⟩ := List.find?_eq_some_iff_append.mp h
  have hmem (other : String × α) : other ∈ entries ↔ other ∈ earlier ++ e :: later := by
    rw [← hsplit, List.mem_mergeSort]
  refine ⟨(hmem e).mpr (by simp), by simpa using hhost, ?_⟩
  intro other hother hkey
  have hsorted : (earlier ++ e :: later).Pairwise fun a b => before a b = true := by
    rw [← hsplit]
    exact List.pairwise_mergeSort before_trans before_total entries
  rcases List.mem_append.mp ((hmem other).mp hother) with hmem | hmem
  · have := hearlier other hmem
    simp [hkey] at this
  · rcases List.mem_cons.mp hmem with rfl | hmem
    · exact .inl rfl
    · exact .inr ((List.pairwise_cons.mp (List.pairwise_append.mp hsorted).2.1).1 other hmem)

/-! ### The value for a host -/

/-- **The value that a table has for a host**: that of the name which is normalized, and without one
that of the smallest name for the host, in the order of bytes. -/
def Chosen (raw : Table α) (host : String) (value : α) : Prop :=
  ∃ key, raw.get? key = some value ∧ Registry.authKey key = host ∧
    (key = host ∨
      raw.get? host = none ∧ ∀ other, (raw.get? other).isSome = true →
        Registry.authKey other = host → Text.encode key ≤ Text.encode other)

theorem Chosen.unique {raw : Table α} {host : String} {v w : α} (hv : Chosen raw host v)
    (hw : Chosen raw host w) : v = w := by
  obtain ⟨k, hk, hkhost, hkeyv⟩ := hv
  obtain ⟨l, hl, hlhost, hkeyw⟩ := hw
  have hkl : k = l := by
    rcases hkeyv with rfl | ⟨hnone, hleast⟩
    · rcases hkeyw with rfl | ⟨hnone, -⟩
      · rfl
      · simp [hk] at hnone
    · rcases hkeyw with rfl | ⟨-, hleast'⟩
      · simp [hl] at hnone
      · have hle := hleast l (by simp [hl]) hlhost
        have hge := hleast' k (by simp [hk]) hkhost
        exact String.le_antisymm (Text.encode_le_encode_iff.mp hle)
          (Text.encode_le_encode_iff.mp hge)
  rw [hkl, hl] at hk
  exact (Option.some.inj hk).symm

theorem get?_byHost (entries : List (String × α)) (host : String) :
    (byHost entries).get? host =
      ((entries.mergeSort before).find? fun e => Registry.authKey e.1 == host).map (·.2) := by
  rw [byHost, Table.get?_foldl_insertNew, Table.get?_empty, Option.none_or]

/-- What is kept for a host is a value for it. -/
theorem chosen_of_get?_byHost {raw : Table α} {order : List (String × α)}
    (horder : order.Perm raw.entries) {host : String} {value : α}
    (h : (byHost order).get? host = some value) : Chosen raw host value := by
  rw [get?_byHost, Option.map_eq_some_iff] at h
  obtain ⟨e, hfind, rfl⟩ := h
  obtain ⟨hmem, hhost, hfirst⟩ := find?_mergeSort_before hfind
  have hown : Registry.authKey host = host := by rw [← hhost, Registry.authKey_authKey]
  refine ⟨e.1, Table.get?_eq_some_iff_mem.mpr (horder.mem_iff.mp hmem), hhost, ?_⟩
  by_cases hkey : e.1 = host
  · exact .inl hkey
  have hnot : isOwnKey e.1 = false := by
    rw [isOwnKey, hhost]
    exact beq_eq_false_iff_ne.mpr (Ne.symm hkey)
  -- a normalized name would have come first, and no name but it is normalized
  have hnone : raw.get? host = none := by
    rw [Option.eq_none_iff_forall_ne_some]
    intro v hv
    have hv := horder.mem_iff.mpr (Table.get?_eq_some_iff_mem.mp hv)
    rcases hfirst _ hv hown with heq | hbefore
    · exact hkey (by rw [← heq])
    · rw [before_iff, hnot] at hbefore
      simp [isOwnKey, hown] at hbefore
  refine .inr ⟨hnone, ?_⟩
  intro other hother hotherhost
  obtain ⟨v, hv⟩ := Option.isSome_iff_exists.mp hother
  have hne : isOwnKey other = false := by
    rw [isOwnKey, hotherhost]
    refine beq_eq_false_iff_ne.mpr ?_
    rintro rfl
    simp [hv] at hnone
  rw [Text.encode_le_encode_iff]
  rcases hfirst _ (horder.mem_iff.mpr (Table.get?_eq_some_iff_mem.mp hv)) hotherhost with
    rfl | hbefore
  · exact String.le_refl _
  · rw [before_iff, hnot, hne] at hbefore
    simpa using hbefore

/-- Something is kept for a host exactly if something is written for it. -/
theorem isSome_get?_byHost_iff {raw : Table α} {order : List (String × α)}
    (horder : order.Perm raw.entries) {host : String} :
    ((byHost order).get? host).isSome = true ↔
      ∃ key, (raw.get? key).isSome = true ∧ Registry.authKey key = host := by
  rw [get?_byHost, Option.isSome_map, List.find?_isSome]
  constructor
  · rintro ⟨e, hmem, hhost⟩
    refine ⟨e.1, ?_, by simpa using hhost⟩
    rw [Table.get?_eq_some_iff_mem.mpr (horder.mem_iff.mp (List.mem_mergeSort.mp hmem))]
    rfl
  · rintro ⟨key, hkey, hhost⟩
    obtain ⟨v, hv⟩ := Option.isSome_iff_exists.mp hkey
    refine ⟨(key, v), List.mem_mergeSort.mpr ?_, by simpa using hhost⟩
    exact horder.mem_iff.mpr (Table.get?_eq_some_iff_mem.mp hv)

/-- **What is kept for a host is the value for it.** -/
theorem get?_byHost_iff {raw : Table α} {order : List (String × α)}
    (horder : order.Perm raw.entries) {host : String} {value : α} :
    (byHost order).get? host = some value ↔ Chosen raw host value := by
  refine ⟨chosen_of_get?_byHost horder, fun h => ?_⟩
  obtain ⟨key, hkey, hhost, -⟩ := id h
  have hsome : ((byHost order).get? host).isSome = true :=
    (isSome_get?_byHost_iff horder).mpr ⟨key, by simp [hkey], hhost⟩
  obtain ⟨kept, hkept⟩ := Option.isSome_iff_exists.mp hsome
  rw [hkept, (chosen_of_get?_byHost horder hkept).unique h]

/-- **The order of the entries is of no importance.** -/
theorem byHost_perm {raw : Table α} {order : List (String × α)} (horder : order.Perm raw.entries) :
    byHost order = byHost raw.entries := by
  refine Table.ext_get? fun host => Option.ext fun value => ?_
  rw [get?_byHost_iff horder, get?_byHost_iff (List.Perm.refl raw.entries)]

end Config

end DockerClient
