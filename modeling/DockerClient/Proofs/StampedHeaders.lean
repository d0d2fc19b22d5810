import DockerClient.Http.Headers
import DockerClient.Proofs.HostKeys

/-
**Headers over those of a request.**

Names of headers that differ in the case of their letters are one name.  They can meet in the list
that a map of headers is made of, and in a request that has headers of its own, which may have any
number of values for a name.  Of all headers of a list with one name the last is sent, in place of
all that the request had.

* `Header.IsValid`, `Header.fault` — headers that can be sent, and what is wrong with others;
* `HeaderMap.ofList_of_valid`, `HeaderMap.ofList_of_invalid` — **the map of a list of headers**, or
  the first that can not be sent;
* `RequestHeaders.sentFor`, `RequestHeaders.sentFor_setAll` — the values that are sent for a name;
* `RequestHeaders.Stamped`, `RequestHeaders.stamped_setAll` — **what a list of headers does to those
  of a request**, in whatever order its map is gone through.
-/

set_option relaxedAutoImplicit false
set_option autoImplicit false

namespace DockerClient

/-! ### Headers in a map -/

namespace Header

/-- A header that can be sent. -/
def IsValid (h : Header) : Prop := isName h.1 = true ∧ isValue h.2 = true

instance (h : Header) : Decidable h.IsValid := inferInstanceAs (Decidable (_ ∧ _))

/-- What is wrong with a header that can not be sent. -/
def fault (h : Header) : ArgumentFault :=
  if isName h.1 = true then .headerValue h.1 else .headerName h.1

/-- A header with its name in lower case. -/
def lowered (h : Header) : Header := (Text.lower h.1, h.2)

end Header

namespace HeaderMap

variable {headers earlier later : List Header} {h : Header}

theorem add_of_valid (map : HeaderMap) (hvalid : h.IsValid) :
    add map h = .ok (map.insert h.lowered.1 h.lowered.2) := by
  simp [add, hvalid.1, hvalid.2, Header.lowered]

theorem add_of_invalid (map : HeaderMap) (hvalid : ¬h.IsValid) :
    add map h = .error (.invalidArgument h.fault) := by
  unfold add Header.fault
  by_cases hname : Header.isName h.1 = true
  · have hvalue : Header.isValue h.2 = false := by
      simpa [Header.IsValid, hname] using hvalid
    simp [hname, hvalue]
  · simp [hname]

theorem foldlM_add (map : HeaderMap) (hvalid : ∀ e ∈ headers, e.IsValid) :
    headers.foldlM add map =
      .ok ((headers.map Header.lowered).foldl (fun map e => map.insert e.1 e.2) map) := by
  induction headers generalizing map with
  | nil => rfl
  | cons e rest ih =>
      rw [List.forall_mem_cons] at hvalid
      rw [List.foldlM_cons, add_of_valid map hvalid.1]
      exact ih _ hvalid.2

/-- **The map of valid headers**: one value for every name, in any case of its letters. -/
theorem ofList_of_valid (hvalid : ∀ e ∈ headers, e.IsValid) :
    ofList headers = .ok (Table.ofList (headers.map Header.lowered)) :=
  foldlM_add Table.empty hvalid

/-- **The first invalid header** is what an error is about. -/
theorem ofList_of_invalid (hearlier : ∀ e ∈ earlier, e.IsValid) (hvalid : ¬h.IsValid) :
    ofList (earlier ++ h :: later) = .error (.invalidArgument h.fault) := by
  rw [ofList, List.foldlM_append, foldlM_add Table.empty hearlier]
  change add _ h >>= _ = _
  rw [add_of_invalid _ hvalid]
  rfl

/-- Headers are all valid, or one of them is the first that is not. -/
theorem exists_first_invalid (hvalid : ¬∀ e ∈ headers, e.IsValid) :
    ∃ earlier h later, headers = earlier ++ h :: later ∧ (∀ e ∈ earlier, e.IsValid) ∧
      ¬h.IsValid := by
  have hfound : ∃ e ∈ headers, decide (¬e.IsValid) = true := by simpa using hvalid
  obtain ⟨h, hfind⟩ := Option.isSome_iff_exists.mp (List.find?_isSome.mpr hfound)
  obtain ⟨hinvalid, earlier, later, hsplit, hearlier⟩ := List.find?_eq_some_iff_append.mp hfind
  exact ⟨earlier, h, later, hsplit, by simpa using hearlier, by simpa using hinvalid⟩

end HeaderMap

/-! ### Headers of a request -/

namespace Table

/-- The values of one key among all. -/
theorem flatMap_key {α : Type} {key : String} {entries : List (String × List α)}
    (hordered : entries.Pairwise fun a b => a.1 < b.1) :
    (entries.flatMap fun e => if e.1 = key then e.2 else []) = (find? key entries).getD [] := by
  induction entries with
  | nil => rfl
  | cons e rest ih =>
      obtain ⟨k, values⟩ := e
      obtain ⟨hlt, hrest⟩ := List.pairwise_cons.mp hordered
      rw [List.flatMap_cons, ih hrest, find?]
      by_cases hk : k = key
      · subst hk
        rw [find?_eq_none_of_lt hlt]
        simp
      · simp [hk]

theorem lastValue?_map {α β : Type} (f : α → β) (key : String) (entries : List (String × α)) :
    lastValue? key (entries.map fun e => (e.1, f e.2)) = (lastValue? key entries).map f := by
  simp [lastValue?, ← List.map_reverse, List.find?_map, Function.comp_def]

theorem lastValue?_eq_none {α : Type} {key : String} {entries : List (String × α)}
    (h : ∀ e ∈ entries, e.1 ≠ key) : lastValue? key entries = none := by
  simpa [lastValue?] using h

/-- An entry that no later one replaces. -/
theorem lastValue?_append_cons {α : Type} {key : String} {value : α}
    {earlier later : List (String × α)} (h : ∀ e ∈ later, e.1 ≠ key) :
    lastValue? key (earlier ++ (key, value) :: later) = some value := by
  have hlater : later.reverse.find? (fun e => e.1 == key) = none := by simpa using h
  simp [lastValue?, List.find?_append, hlater]

end Table

namespace RequestHeaders

variable {headers order : List Header} {before after : RequestHeaders}

/-- The values that are sent for a name, in any case of its letters. -/
def sentFor (r : RequestHeaders) (name : String) : List String :=
  (r.entries.filter fun h => Text.sameIgnoringCase h.1 name).map Prod.snd

theorem sentFor_eq (r : RequestHeaders) (name : String) :
    r.sentFor name = (r.table.get? (Text.lower name)).getD [] := by
  rw [Table.get?, ← Table.flatMap_key r.table.ordered, sentFor, entries, List.filter_flatMap,
    List.map_flatMap]
  refine List.flatMap_congr fun e he => ?_
  have hlower : Text.lower e.1 = e.1 := r.lower e he
  by_cases hname : e.1 = Text.lower name
  · simp [Text.sameIgnoringCase, hname, List.filter_map, Function.comp_def]
  · simp [Text.sameIgnoringCase, hlower, hname, List.filter_map]

theorem table_setAll (headers : List Header) (r : RequestHeaders) : (r.setAll headers).table =
    ((headers.map Header.lowered).map fun e => (e.1, [e.2])).foldl
      (fun t e => t.insert e.1 e.2) r.table := by
  induction headers generalizing r with
  | nil => rfl
  | cons h rest ih => exact ih (r.set h.1 h.2)

/-- Setting headers one after the other gives each name what the map of them has for it. -/
theorem sentFor_setAll (headers : List Header) (r : RequestHeaders) (name : String) :
    (r.setAll headers).sentFor name =
      (((Table.ofList (headers.map Header.lowered)).get? (Text.lower name)).map ([·])).getD
        (r.sentFor name) := by
  rw [sentFor_eq, sentFor_eq, table_setAll, Table.get?_foldl_insert,
    Table.lastValue?_map (fun value => [value]), Table.get?_ofList]
  cases Table.lastValue? (Text.lower name) (headers.map Header.lowered) <;> rfl

/-- **What a list of headers does to those of a request.** -/
structure Stamped (headers : List Header) (before after : RequestHeaders) : Prop where
  /-- Of the headers with one name, in any case of its letters, the last is sent and no other. -/
  last : ∀ earlier h later, headers = earlier ++ h :: later →
    (∀ e ∈ later, Text.lower e.1 ≠ Text.lower h.1) → after.sentFor h.1 = [h.2]
  /-- A name that is not in the list keeps what it had. -/
  others : ∀ name, (∀ h ∈ headers, Text.lower h.1 ≠ Text.lower name) →
    after.sentFor name = before.sentFor name

/-- **Setting the headers of a map**, in whatever order it is gone through, does what the list does
that the map was made of. -/
theorem stamped_setAll (horder : order.Perm (Table.ofList (headers.map Header.lowered)).entries)
    (before : RequestHeaders) : Stamped headers before (before.setAll order) := by
  -- the names of a map are in lower case already
  have hlowered : order.map Header.lowered = order := by
    refine (List.map_congr_left fun e he => ?_).trans (List.map_id order)
    obtain ⟨h, -, rfl⟩ := List.mem_map.mp (Table.mem_of_mem_ofList (horder.mem_iff.mp he))
    exact Prod.ext (Text.lower_lower h.1) rfl
  have hsent (name : String) : (before.setAll order).sentFor name =
      ((Table.lastValue? (Text.lower name) (headers.map Header.lowered)).map ([·])).getD
        (before.sentFor name) := by
    rw [sentFor_setAll, hlowered, Table.ofList_of_perm horder, Table.get?_ofList]
  constructor
  case last =>
    rintro earlier h later rfl hlater
    have hlast : Table.lastValue? (Text.lower h.1)
        ((earlier ++ h :: later).map Header.lowered) = some h.2 := by
      rw [List.map_append, List.map_cons]
      exact Table.lastValue?_append_cons (List.forall_mem_map.mpr hlater)
    rw [hsent, hlast]
    rfl
  case others =>
    intro name hnone
    have hlast : Table.lastValue? (Text.lower name) (headers.map Header.lowered) = none :=
      Table.lastValue?_eq_none (List.forall_mem_map.mpr hnone)
    rw [hsent, hlast]
    rfl

end RequestHeaders

end DockerClient
