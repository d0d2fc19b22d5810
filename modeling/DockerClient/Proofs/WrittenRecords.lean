import DockerClient.Json.Record
import Mathlib.Data.List.Forall2

/-
**What a JSON record says.**

A record is written as an object or as an array, its fields may be missing, and unknown members are
passed over.  This module says what that amounts to without following the reader: the record has
members with names, and a field has the value of the one member with its name, or else its default.

* `Json.GivenOnce` — one member, and no other one, has a name;
* `Json.Record.Members` — **the members of a record**, by their names in both of its written forms;
* `Json.FieldIs` — **the value of a field**, from the members;
* `Json.OptionalField` — **a field of an object that may be missing or null**;
* `Json.ListIs`, `Json.TableIs` — **an array as a list, an object as a table**;
* `Json.fieldIs_iff_defaulted`, `Json.fieldIs_iff_required`, `Json.optionalField_iff`,
  `Json.Raw.list?_eq_some_iff`, `Json.Raw.table?_eq_some_iff`, `Json.Record.pair_eq_some_iff` —
  fields, lists, tables and records are read exactly as they say.
-/

set_option relaxedAutoImplicit false
set_option autoImplicit false

namespace DockerClient.Json

/-! ### Members -/

/-- One member has a name, with a value, and no other member has that name. -/
def GivenOnce (named : List (String × Raw)) (name : String) (raw : Raw) : Prop :=
  ∃ before after, named = before ++ (name, raw) :: after ∧ ∀ m ∈ before ++ after, m.1 ≠ name

/-- **The members of a record** with the given fields: an object has them with their names, in any
order and with others among them; an array has them in the order of the fields, and may end
early. -/
inductive Record.Members (names : List String) : Raw → List (String × Raw) → Prop
  | object {members : List (List UInt8 × Raw)} {named : List (String × Raw)}
      (hnamed : namedMembers? members = some named) : Members names (.object members) named
  | array {items : List Raw} (hlength : items.length ≤ names.length) :
      Members names (.array items) (names.zip items)

/-- What is written is a value of a type, by the reader of the type. -/
def ReadAs {α : Type} (f : Raw → Option α) (raw : Raw) (value : α) : Prop := f raw = some value

/-- **The value of a field** of a type: what is written for it, or its default if it has one and no
member has its name.  A field that is written twice has no value. -/
inductive FieldIs {α : Type} (Is : Raw → α → Prop) (default : Option α)
    (named : List (String × Raw)) (name : String) : α → Prop
  | written {raw : Raw} {value : α} (honce : GivenOnce named name raw) (hvalue : Is raw value) :
      FieldIs Is default named name value
  | missing {value : α} (hmissing : ∀ m ∈ named, m.1 ≠ name) (hdefault : default = some value) :
      FieldIs Is default named name value

/-- A value of a type, or null, which stands for nothing. -/
inductive NullOr {α : Type} (Is : Raw → α → Prop) : Raw → Option α → Prop
  | null : NullOr Is .null none
  | value {raw : Raw} {value : α} (hraw : raw ≠ .null) (hvalue : Is raw value) :
      NullOr Is raw (some value)

/-- **An optional field of an object**: its value, or nothing if it is null or missing. -/
inductive OptionalField {α : Type} (Is : Raw → α → Prop) (name : String) : Raw → Option α → Prop
  | object {members : List (List UInt8 × Raw)} {named : List (String × Raw)} {value : Option α}
      (hnamed : namedMembers? members = some named)
      (hvalue : FieldIs (NullOr Is) (some none) named name value) :
      OptionalField Is name (.object members) value

/-- **An array as a list** of values of a type. -/
inductive ListIs {α : Type} (Is : Raw → α → Prop) : Raw → List α → Prop
  | array {items : List Raw} {values : List α} (hitems : List.Forall₂ Is items values) :
      ListIs Is (.array items) values

/-- **An object as a table**: every member has a name and a value of a type, and of several with one
name the last one counts. -/
inductive TableIs {α : Type} (Is : Raw → α → Prop) : Raw → Table α → Prop
  | object {members : List (List UInt8 × Raw)} {entries : List (String × α)}
      (hentries : List.Forall₂ (fun m e => textOf? m.1 = some e.1 ∧ Is m.2 e.2) members entries) :
      TableIs Is (.object members) (.ofList entries)

/-! ### Single fields -/

section

variable {α : Type} {f : Raw → Option α} {named : List (String × Raw)} {name : String}

theorem field?_eq_some_none_iff : field? named name = some none ↔ ∀ m ∈ named, m.1 ≠ name := by
  unfold field?
  split
  · rename_i hnil
    simpa using hnil
  · rename_i m hone
    have hm : m ∈ named.filter fun m => m.1 == name := hone ▸ List.mem_singleton_self m
    obtain ⟨hmem, heq⟩ := List.mem_filter.mp hm
    simp only [Option.some.injEq, reduceCtorEq, false_iff]
    exact fun h => h m hmem (eq_of_beq heq)
  · rename_i hnil _
    simp only [reduceCtorEq, false_iff]
    exact fun h => hnil (by simpa using h)

theorem field?_eq_some_some_iff {raw : Raw} :
    field? named name = some (some raw) ↔ GivenOnce named name raw := by
  constructor
  · intro h
    unfold field? at h
    split at h
    · cases h
    · rename_i m hone
      cases h
      obtain ⟨before, after, rfl, hbefore, hm, hafter⟩ := List.filter_eq_cons_iff.mp hone
      refine ⟨before, after, by rw [← eq_of_beq hm], fun x hx => ?_⟩
      rcases List.mem_append.mp hx with hx | hx
      · simpa using hbefore x hx
      · simpa using List.filter_eq_nil_iff.mp hafter x hx
    · cases h
  · rintro ⟨before, after, rfl, hothers⟩
    have hnone {part : List (String × Raw)} (hpart : ∀ m ∈ part, m ∈ before ++ after) :
        part.filter (fun m => m.1 == name) = [] :=
      List.filter_eq_nil_iff.mpr fun m hm heq => hothers m (hpart m hm) (eq_of_beq heq)
    have hone : (before ++ (name, raw) :: after).filter (fun m => m.1 == name) = [(name, raw)] := by
      rw [List.filter_append, hnone fun m => List.mem_append_left after,
        List.filter_cons_of_pos (by simp), hnone fun m => List.mem_append_right before]
      rfl
    rw [field?, hone]

/-- A field with a default is read as the members say. -/
theorem fieldIs_iff_defaulted {default value : α} :
    FieldIs (ReadAs f) (some default) named name value ↔
      ∃ field, field? named name = some field ∧ defaulted f default field = some value := by
  constructor
  · intro h
    cases h with
    | written honce hvalue => exact ⟨_, field?_eq_some_some_iff.mpr honce, hvalue⟩
    | missing hmissing hdefault => exact ⟨_, field?_eq_some_none_iff.mpr hmissing, hdefault⟩
  · rintro ⟨field, hfield, hvalue⟩
    cases field with
    | none => exact .missing (field?_eq_some_none_iff.mp hfield) hvalue
    | some raw => exact .written (field?_eq_some_some_iff.mp hfield) hvalue

/-- A field that may not be missing is read as the members say. -/
theorem fieldIs_iff_required {value : α} :
    FieldIs (ReadAs f) none named name value ↔
      ∃ field, field? named name = some field ∧ required f field = some value := by
  constructor
  · intro h
    cases h with
    | written honce hvalue => exact ⟨_, field?_eq_some_some_iff.mpr honce, hvalue⟩
    | missing _ hdefault => cases hdefault
  · rintro ⟨field, hfield, hvalue⟩
    cases field with
    | none => cases hvalue
    | some raw => exact .written (field?_eq_some_some_iff.mp hfield) hvalue

theorem nullOr_iff {raw : Raw} {value : Option α} :
    NullOr (ReadAs f) raw value ↔ optional f (some raw) = some value := by
  constructor
  · rintro (_ | ⟨hraw, hvalue⟩)
    · rfl
    · rw [optional]
      · exact congrArg (Option.map some) hvalue
      · exact hraw
  · intro h
    by_cases hraw : raw = .null
    · subst hraw
      cases h
      exact .null
    · rw [optional] at h
      · obtain ⟨value, hvalue, rfl⟩ := Option.map_eq_some_iff.mp h
        exact .value hraw hvalue
      · exact hraw

/-- A field that may be null is read as the members say. -/
theorem fieldIs_iff_optional {value : Option α} :
    FieldIs (NullOr (ReadAs f)) (some none) named name value ↔
      ∃ field, field? named name = some field ∧ optional f field = some value := by
  constructor
  · intro h
    cases h with
    | written honce hvalue =>
        exact ⟨_, field?_eq_some_some_iff.mpr honce, nullOr_iff.mp hvalue⟩
    | missing hmissing hdefault => exact ⟨_, field?_eq_some_none_iff.mpr hmissing, hdefault⟩
  · rintro ⟨field, hfield, hvalue⟩
    cases field with
    | none => exact .missing (field?_eq_some_none_iff.mp hfield) hvalue
    | some raw => exact .written (field?_eq_some_some_iff.mp hfield) (nullOr_iff.mpr hvalue)

end

/-! ### Lists and tables -/

theorem forall₂_of_allOf {α β : Type} {f : α → Option β} {as : List α} {bs : List β}
    (h : allOf f as = some bs) : List.Forall₂ (fun a b => f a = some b) as bs := by
  induction as generalizing bs with
  | nil =>
      cases h
      exact .nil
  | cons a rest ih =>
      rw [allOf] at h
      split at h
      · rename_i b bs' hb hrest
        cases h
        exact .cons hb (ih hrest)
      · cases h

theorem allOf_of_forall₂ {α β : Type} {f : α → Option β} {as : List α} {bs : List β}
    (h : List.Forall₂ (fun a b => f a = some b) as bs) : allOf f as = some bs := by
  induction h with
  | nil => rfl
  | cons hb _ ih => simp only [allOf, hb, ih]

/-- **A list is read exactly as its array says.** -/
theorem Raw.list?_eq_some_iff {α : Type} {f : Raw → Option α} {raw : Raw} {values : List α} :
    Raw.list? f raw = some values ↔ ListIs (ReadAs f) raw values := by
  constructor
  · intro h
    cases raw with
    | array items => exact .array (forall₂_of_allOf h)
    | null | bool | number | string | object => cases h
  · rintro ⟨hitems⟩
    exact allOf_of_forall₂ hitems

theorem member?_eq_some_iff {α : Type} {f : Raw → Option α} {m : List UInt8 × Raw}
    {e : String × α} : member? f m = some e ↔ textOf? m.1 = some e.1 ∧ ReadAs f m.2 e.2 := by
  unfold member? ReadAs
  cases textOf? m.1 <;> cases f m.2 <;> simp [Prod.ext_iff]

/-- **A table is read exactly as its members say.** -/
theorem Raw.table?_eq_some_iff {α : Type} {f : Raw → Option α} {raw : Raw} {t : Table α} :
    Raw.table? f raw = some t ↔ TableIs (ReadAs f) raw t := by
  constructor
  · intro h
    cases raw with
    | object members =>
        obtain ⟨entries, hentries, rfl⟩ := Option.map_eq_some_iff.mp h
        exact .object ((forall₂_of_allOf hentries).imp fun _ _ => member?_eq_some_iff.mp)
    | null | bool | number | string | array => cases h
  · rintro ⟨hentries⟩
    have hall := allOf_of_forall₂ (hentries.imp fun _ _ => member?_eq_some_iff.mpr)
    rw [Raw.table?, hall, Option.map_some]

/-! ### Whole records -/

theorem allOf_congr {α β : Type} {f g : α → Option β} {as : List α} (h : ∀ a ∈ as, f a = g a) :
    allOf f as = allOf g as := by
  induction as with
  | nil => rfl
  | cons a as ih =>
      rw [allOf, allOf, h a List.mem_cons_self, ih fun x hx => h x (List.mem_cons_of_mem a hx)]

/-- A member of another name does not matter to a field. -/
theorem field?_cons_of_ne {m : String × Raw} {named : List (String × Raw)} {name : String}
    (h : m.1 ≠ name) : field? (m :: named) name = field? named name := by
  rw [field?, field?, List.filter_cons_of_neg (by simpa using h)]

/-- Nothing is written for the fields of an empty array. -/
theorem allOf_field?_nil (names : List String) :
    allOf (field? []) names = some (names.map fun _ => none) := by
  induction names with
  | nil => rfl
  | cons name names ih =>
      rw [allOf, ih]
      rfl

/-- The elements of an array are the fields in their order. -/
theorem inOrder?_eq_some_iff {names : List String} (hnodup : names.Nodup) {items : List Raw}
    {fields : List (Option Raw)} :
    inOrder? names items = some fields ↔
      items.length ≤ names.length ∧ allOf (field? (names.zip items)) names = some fields := by
  induction names generalizing items fields with
  | nil => cases items <;> simp [inOrder?, allOf]
  | cons name names ih =>
      rw [List.nodup_cons] at hnodup
      cases items with
      | nil => simp [inOrder?, allOf_field?_nil]
      | cons item items =>
          have hnone : ∀ m ∈ names.zip items, m.1 ≠ name := fun m hm heq =>
            hnodup.1 (heq ▸ (List.of_mem_zip hm).1)
          have hfirst : field? ((name, item) :: names.zip items) name = some (some item) :=
            field?_eq_some_some_iff.mpr ⟨[], names.zip items, rfl, hnone⟩
          have hrest : allOf (field? ((name, item) :: names.zip items)) names =
              allOf (field? (names.zip items)) names :=
            allOf_congr fun other hother =>
              field?_cons_of_ne (ne_of_mem_of_not_mem hother hnodup.1).symm
          have hstep : inOrder? (name :: names) (item :: items) =
              (inOrder? names items).map (some item :: ·) := rfl
          rw [hstep, Option.map_eq_some_iff, List.zip_cons_cons, allOf, hfirst, hrest,
            List.length_cons, List.length_cons, Nat.add_le_add_iff_right]
          constructor
          · rintro ⟨fields, hfields, rfl⟩
            obtain ⟨hlength, hall⟩ := (ih hnodup.2).mp hfields
            exact ⟨hlength, by rw [hall]⟩
          · rintro ⟨hlength, hall⟩
            split at hall
            · rename_i fields' first hitem hfields'
              cases hitem
              cases hall
              exact ⟨_, (ih hnodup.2).mpr ⟨hlength, hfields'⟩, rfl⟩
            · cases hall

/-- **A record is read exactly as its members say.** -/
theorem Record.fields?_eq_some_iff {names : List String} (hnodup : names.Nodup) {raw : Raw}
    {fields : List (Option Raw)} :
    Record.fields? names raw = some fields ↔
      ∃ named, Record.Members names raw named ∧ allOf (field? named) names = some fields := by
  cases raw with
  | array items =>
      rw [Record.fields?, inOrder?_eq_some_iff hnodup]
      constructor
      · rintro ⟨hlength, hall⟩
        exact ⟨_, .array hlength, hall⟩
      · rintro ⟨_, hmembers, hall⟩
        cases hmembers with
        | array hlength => exact ⟨hlength, hall⟩
  | object members =>
      have hread : Record.fields? names (.object members) =
          (Record.object? names (.object members)).map (·.1) := rfl
      rw [hread, Option.map_eq_some_iff]
      constructor
      · rintro ⟨read, hread, rfl⟩
        rw [Record.object?] at hread
        split at hread
        · cases hread
        · rename_i named hnamed
          obtain ⟨fields, hall, rfl⟩ := Option.map_eq_some_iff.mp hread
          exact ⟨named, .object hnamed, hall⟩
      · rintro ⟨_, ⟨hnamed⟩, hall⟩
        rw [Record.object?]
        simp only [hnamed, hall]
        exact ⟨_, rfl, rfl⟩
  | null | bool | number | string =>
      simp only [Record.fields?, Record.object?, Option.map_none, reduceCtorEq, false_iff]
      rintro ⟨_, hmembers, -⟩
      cases hmembers

/-- A record that has to be an object is read field by field from its members. -/
theorem Record.exists_members_of_object? {names : List String} {raw : Raw}
    {fields : List (Option Raw)} {rest : List (String × Raw)}
    (h : Record.object? names raw = some (fields, rest)) :
    ∃ members named, raw = .object members ∧ namedMembers? members = some named ∧
      List.Forall₂ (fun name field => field? named name = some field) names fields := by
  unfold Record.object? at h
  split at h
  · rename_i members
    split at h
    · cases h
    · rename_i named hnamed
      obtain ⟨fields', hfields, heq⟩ := Option.map_eq_some_iff.mp h
      cases heq
      exact ⟨members, named, rfl, hnamed, forall₂_of_allOf hfields⟩
  · cases h

/-- **An optional field of an object is read exactly as the members say.** -/
theorem optionalField_iff {α : Type} {f : Raw → Option α} {name : String} {raw : Raw}
    {value : Option α} :
    OptionalField (ReadAs f) name raw value ↔
      ∃ field rest, Record.object? [name] raw = some ([field], rest) ∧
        optional f field = some value := by
  constructor
  · rintro ⟨hnamed, hvalue⟩
    rename_i members named
    obtain ⟨field, hfield, hread⟩ := fieldIs_iff_optional.mp hvalue
    have hobject : Record.object? [name] (.object members) =
        some ([field], named.filter fun m => !(List.contains [name] m.1)) := by
      simp only [Record.object?, hnamed, allOf, hfield, Option.map_some]
    exact ⟨field, _, hobject, hread⟩
  · rintro ⟨field, rest, hobject, hread⟩
    obtain ⟨members, named, rfl, hnamed, hfields⟩ := Record.exists_members_of_object? hobject
    exact .object hnamed (fieldIs_iff_optional.mpr ⟨field, (List.forall₂_cons.mp hfields).1, hread⟩)

/-- A record of two fields has something, perhaps nothing written, for each of them. -/
theorem Record.fields?_pair_eq_some_iff {a b : String} (hab : a ≠ b) {raw : Raw}
    {fields : List (Option Raw)} :
    Record.fields? [a, b] raw = some fields ↔
      ∃ named x y, Record.Members [a, b] raw named ∧ field? named a = some x ∧
        field? named b = some y ∧ fields = [x, y] := by
  rw [Record.fields?_eq_some_iff (by simp [hab])]
  refine exists_congr fun named => ?_
  simp only [allOf]
  cases field? named a <;> cases field? named b <;> simp [eq_comm]

/-- **A record of two fields is read exactly as its members say**, whatever is made of them. -/
theorem Record.pair_eq_some_iff {α β γ : Type} {a b : String} (hab : a ≠ b)
    (f : Option Raw → Option α) (g : Option Raw → Option β) (make : α → β → γ) {raw : Raw} {r : γ} :
    (match Record.fields? [a, b] raw with
      | some [u, v] => do
          let x ← f u
          let y ← g v
          some (make x y)
      | _ => none) = some r ↔
      ∃ named x y, Record.Members [a, b] raw named ∧
        (∃ u, field? named a = some u ∧ f u = some x) ∧
        (∃ v, field? named b = some v ∧ g v = some y) ∧ make x y = r := by
  constructor
  · intro h
    split at h
    · rename_i u v hfields
      obtain ⟨named, u', v', hmembers, hu, hv, heq⟩ := (fields?_pair_eq_some_iff hab).mp hfields
      cases heq
      obtain ⟨x, hx, h⟩ := Option.bind_eq_some_iff.mp h
      obtain ⟨y, hy, h⟩ := Option.bind_eq_some_iff.mp h
      exact ⟨named, x, y, hmembers, ⟨u, hu, hx⟩, ⟨v, hv, hy⟩, Option.some.inj h⟩
    · cases h
  · rintro ⟨named, x, y, hmembers, ⟨u, hu, hx⟩, ⟨v, hv, hy⟩, rfl⟩
    rw [(fields?_pair_eq_some_iff hab).mpr ⟨named, u, v, hmembers, hu, hv, rfl⟩]
    simp [hx, hy]

end DockerClient.Json
