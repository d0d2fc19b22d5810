import DockerClient.Config.Writer
import DockerClient.Proofs.LoadedConfig
import DockerClient.Proofs.WrittenJson

/-
**Saving a loaded configuration and loading it again.**

A configuration is written as an object with a member for each section that is not empty, and one for
each key that has no section.  Its sections are maps, which may be written in any order.

* `Json.given`, `Json.Record.object?_given` — the members of a record, and what is read of them;
* `AuthEntry.ofRaw?_toValue`, `ProxyConfig.ofRaw?_toValue` — records of texts;
* `ConfigFile.Order`, `ConfigFile.SavedAs` — a configuration with its maps in some order, as bytes;
* `ConfigFile.ofRaw?_toValue` — **a configuration is read as it was written**;
* `ConfigFile.normalized_normalized` — **normalizing twice changes nothing more**;
* `ConfigFile.load_saved` — **a loaded configuration is loaded again** from what it is saved as.
-/

set_option relaxedAutoImplicit false
set_option autoImplicit false

namespace DockerClient

open Json (Raw Value)

/-! ### Records as they are written -/

namespace Json

/-- The members of a record whose fields may be missing. -/
def given (fields : List (String × Option Value)) : List (String × Value) :=
  fields.filterMap fun f => f.2.map fun v => (f.1, v)

theorem given_append (first second : List (String × Option Value)) :
    given (first ++ second) = given first ++ given second := List.filterMap_append

theorem allOf_map {α β γ : Type} {f : β → Option γ} {g : α → β} {k : α → γ} {as : List α}
    (h : ∀ a ∈ as, f (g a) = some (k a)) : allOf f (as.map g) = some (as.map k) := by
  induction as with
  | nil => rfl
  | cons a rest ih =>
      rw [List.map_cons, allOf, h a List.mem_cons_self,
        ih fun b hb => h b (List.mem_cons_of_mem _ hb), List.map_cons]

theorem exists_of_mem_allOf {α β : Type} {f : α → Option β} {as : List α} {bs : List β}
    (h : allOf f as = some bs) {b : β} (hb : b ∈ bs) : ∃ a ∈ as, f a = some b := by
  have hall := forall₂_of_allOf h
  clear h
  induction hall with
  | nil => cases hb
  | cons hfirst _ ih =>
      rcases List.mem_cons.mp hb with rfl | hb
      · exact ⟨_, List.mem_cons_self, hfirst⟩
      · obtain ⟨a, ha, hf⟩ := ih hb
        exact ⟨a, List.mem_cons_of_mem _ ha, hf⟩

/-- The other members of a record are not named like its fields. -/
theorem Record.notMem_of_object? {names : List String} {raw : Raw} {fields : List (Option Raw)}
    {rest : List (String × Raw)} (h : Record.object? names raw = some (fields, rest))
    {m : String × Raw} (hm : m ∈ rest) : m.1 ∉ names := by
  unfold Record.object? at h
  split at h
  · split at h
    · cases h
    · obtain ⟨fields', -, heq⟩ := Option.map_eq_some_iff.mp h
      cases heq
      simpa using (List.mem_filter.mp hm).2
  · cases h

/-- A member is given by the field of its name. -/
theorem mem_given {fields : List (String × Option Value)} {m : String × Value}
    (h : m ∈ given fields) : (m.1, some m.2) ∈ fields := by
  obtain ⟨f, hf, hm⟩ := List.mem_filterMap.mp h
  obtain ⟨v, hv, rfl⟩ := Option.map_eq_some_iff.mp hm
  rwa [← hv]

theorem name_of_mem_given {fields : List (String × Option Value)} {m : String × Value}
    (h : m ∈ given fields) : m.1 ∈ fields.map Prod.fst :=
  List.mem_map.mpr ⟨_, mem_given h, rfl⟩

/-- A field is given at most once. -/
theorem filter_given {fields : List (String × Option Value)} (hnodup : (fields.map Prod.fst).Nodup)
    {f : String × Option Value} (hf : f ∈ fields) :
    (given fields).filter (fun m => m.1 == f.1) = (f.2.map fun v => (f.1, v)).toList := by
  induction fields with
  | nil => cases hf
  | cons g rest ih =>
      rw [List.map_cons, List.nodup_cons] at hnodup
      have hcons : given (g :: rest) = (g.2.map fun v => (g.1, v)).toList ++ given rest := by
        cases h : g.2 <;> simp [given, h]
      rw [hcons, List.filter_append]
      rcases List.mem_cons.mp hf with rfl | hf
      · have hrest : (given rest).filter (fun m => m.1 == f.1) = [] := by
          refine List.filter_eq_nil_iff.mpr fun m hm heq => hnodup.1 ?_
          rw [← eq_of_beq heq]
          exact name_of_mem_given hm
        rw [hrest, List.append_nil]
        cases f.2 <;> simp
      · have hne : g.1 ≠ f.1 := fun heq => hnodup.1 (heq ▸ List.mem_map_of_mem hf)
        have hfirst : (g.2.map fun v => (g.1, v)).toList.filter (fun m => m.1 == f.1) = [] := by
          cases g.2 <;> simp [hne]
        rw [hfirst, List.nil_append, ih hnodup.2 hf]

/-- A member with its value as it is written. -/
def rawMember (m : String × Value) : String × Raw := (m.1, m.2.toRaw)

theorem namedMembers?_map (ms : List (String × Value)) :
    namedMembers? (ms.map Value.memberToRaw) = some (ms.map rawMember) := by
  refine allOf_map fun m _ => ?_
  rw [member?, Value.memberToRaw, textOf?_escape]
  rfl

/-- **What is read of a record** is what was given for its fields, and the other members. -/
theorem Record.object?_given (fields : List (String × Option Value))
    (others : List (String × Value)) (hnodup : (fields.map Prod.fst).Nodup)
    (hothers : ∀ m ∈ others, m.1 ∉ fields.map Prod.fst) :
    Record.object? (fields.map Prod.fst) (Value.object (given fields ++ others)).toRaw =
      some (fields.map fun f => f.2.map Value.toRaw, others.map rawMember) := by
  have hfields : allOf (field? ((given fields ++ others).map rawMember)) (fields.map Prod.fst) =
      some (fields.map fun f => f.2.map Value.toRaw) := by
    refine allOf_map fun f hf => ?_
    have hnone : others.filter (fun m => m.1 == f.1) = [] := by
      refine List.filter_eq_nil_iff.mpr fun m hm heq => hothers m hm ?_
      rw [eq_of_beq heq]
      exact List.mem_map_of_mem hf
    have hfilter : ((given fields ++ others).map rawMember).filter (fun m => m.1 == f.1) =
        ((f.2.map fun v => (f.1, v)).toList).map rawMember := by
      rw [List.filter_map]
      have hsame : (fun m : String × Raw => m.1 == f.1) ∘ rawMember = fun m => m.1 == f.1 := rfl
      rw [hsame, List.filter_append, filter_given hnodup hf, hnone, List.append_nil]
    rw [field?, hfilter]
    cases f.2 <;> rfl
  have hrest : ((given fields ++ others).map rawMember).filter
      (fun m => !(fields.map Prod.fst).contains m.1) = others.map rawMember := by
    have hgiven : (given fields).filter (fun m => !(fields.map Prod.fst).contains m.1) = [] := by
      refine List.filter_eq_nil_iff.mpr fun m hm => ?_
      simpa using name_of_mem_given hm
    have hkept : others.filter (fun m => !(fields.map Prod.fst).contains m.1) = others := by
      refine List.filter_eq_self.mpr fun m hm => ?_
      simpa using hothers m hm
    have hsame : (fun m : String × Raw => !(fields.map Prod.fst).contains m.1) ∘ rawMember =
      fun m => !(fields.map Prod.fst).contains m.1 := rfl
    rw [List.filter_map, hsame, List.filter_append, hgiven, hkept, List.nil_append]
  rw [Value.toRaw, Value.membersToRaw_eq_map, Record.object?, namedMembers?_map]
  dsimp only
  rw [hfields, hrest]
  rfl

/-! ### Fields as they are written -/

theorem string?_toRaw (s : String) : Raw.string? (Value.string s).toRaw = some s := by
  rw [Value.toRaw, Raw.string?, textOf?_escape]

/-- The value of a text, none if it is empty. -/
def textValue (s : String) : Option Value := if s = "" then none else some (.string s)

theorem defaulted_textValue (s : String) :
    defaulted Raw.string? "" ((textValue s).map Value.toRaw) = some s := by
  rw [textValue]
  split
  · rename_i h
    rw [h]
    rfl
  · rw [Option.map_some, defaulted, string?_toRaw]

theorem isWhole_textValue (s : String) : ∀ v ∈ textValue s, v.IsWhole := by
  intro v hv
  rw [textValue] at hv
  split at hv
  · cases hv
  · cases hv
    exact .string s

/-- The value of a map in some order, none if it is empty. -/
def mapValue {α : Type} (f : α → Value) (entries : List (String × α)) : Option Value :=
  if entries.isEmpty then none else some (.object (entries.map fun e => (e.1, f e.2)))

theorem defaulted_mapValue {α : Type} {f : α → Value} {read : Raw → Option α}
    (hread : ∀ a, read (f a).toRaw = some a) {t : Table α} {order : List (String × α)}
    (horder : order.Perm t.entries) :
    defaulted (Raw.table? read) Table.empty ((mapValue f order).map Value.toRaw) = some t := by
  rw [mapValue]
  split
  · rename_i h
    have hempty : t = Table.empty := by
      rw [← Table.ofList_of_perm horder, List.isEmpty_iff.mp h]
      rfl
    rw [hempty]
    rfl
  · have hmembers : allOf (member? read)
        ((order.map fun e => (e.1, f e.2)).map Value.memberToRaw) = some (order.map id) := by
      rw [List.map_map]
      refine allOf_map fun e _ => ?_
      rw [member?, Function.comp_apply, Value.memberToRaw, textOf?_escape, hread]
      rfl
    rw [Option.map_some, Value.toRaw, Value.membersToRaw_eq_map, defaulted, Raw.table?, hmembers,
      List.map_id, Option.map_some, Table.ofList_of_perm horder]

theorem isWhole_mapValue {α : Type} {f : α → Value} (hf : ∀ a, (f a).IsWhole)
    (entries : List (String × α)) : ∀ v ∈ mapValue f entries, v.IsWhole := by
  intro v hv
  rw [mapValue] at hv
  split at hv
  · cases hv
  · cases hv
    refine .object fun m hm => ?_
    obtain ⟨e, -, rfl⟩ := List.mem_map.mp hm
    exact hf e.2

/-- The value of a list of texts, none if it is empty. -/
def listValue (texts : List String) : Option Value :=
  if texts.isEmpty then none else some (.array (texts.map .string))

theorem defaulted_listValue (texts : List String) :
    defaulted (Raw.list? Raw.string?) [] ((listValue texts).map Value.toRaw) = some texts := by
  rw [listValue]
  split
  · rename_i h
    rw [List.isEmpty_iff.mp h]
    rfl
  · have hitems : allOf Raw.string? ((texts.map Value.string).map Value.toRaw) =
        some (texts.map id) := by
      rw [List.map_map]
      refine allOf_map fun s _ => ?_
      rw [Function.comp_apply, string?_toRaw]
      rfl
    rw [Option.map_some, Value.toRaw, Value.itemsToRaw_eq_map, defaulted, Raw.list?, hitems,
      List.map_id]

theorem isWhole_listValue (texts : List String) : ∀ v ∈ listValue texts, v.IsWhole := by
  intro v hv
  rw [listValue] at hv
  split at hv
  · cases hv
  · cases hv
    refine .array fun w hw => ?_
    obtain ⟨s, -, rfl⟩ := List.mem_map.mp hw
    exact .string s

end Json

open Json (given textValue mapValue listValue)

theorem textMember_eq (name s : String) : textMember name s = given [(name, textValue s)] := by
  rw [textMember, textValue]
  split <;> rfl

theorem tableMember_eq {α : Type} (name : String) (f : α → Value) (t : Table α) :
    tableMember name f t = given [(name, mapValue f t.entries)] := by
  rw [tableMember, mapValue, Table.isEmpty]
  split <;> rfl

theorem listMember_eq (name : String) (texts : List String) :
    listMember name texts = given [(name, listValue texts)] := by
  rw [listMember, listValue]
  split <;> rfl

/-! ### Records of texts -/

/-- A record of texts. -/
def textRecord (texts : List (String × String)) : Value :=
  .object (given (texts.map fun t => (t.1, textValue t.2)))

/-- **A record of texts is read as it was written.** -/
theorem textFields?_textRecord (texts : List (String × String))
    (hnodup : (texts.map Prod.fst).Nodup) :
    textFields? (texts.map Prod.fst) (textRecord texts).toRaw = some (texts.map Prod.snd) := by
  have hnames : (texts.map fun t => (t.1, textValue t.2)).map Prod.fst = texts.map Prod.fst := by
    rw [List.map_map]
    rfl
  have hobject := Json.Record.object?_given (texts.map fun t => (t.1, textValue t.2)) []
    (hnames ▸ hnodup) (fun m hm => by cases hm)
  rw [List.append_nil, hnames, List.map_map] at hobject
  have hfields : Json.Record.fields? (texts.map Prod.fst) (textRecord texts).toRaw =
      (Json.Record.object? (texts.map Prod.fst) (textRecord texts).toRaw).map (·.1) := by
    rw [textRecord, Value.toRaw]
    rfl
  rw [textFields?, hfields, textRecord, hobject]
  exact Json.allOf_map fun t _ => Json.defaulted_textValue t.2

theorem isWhole_textRecord (texts : List (String × String)) : (textRecord texts).IsWhole := by
  refine .object fun m hm => ?_
  obtain ⟨t, -, ht⟩ := List.mem_map.mp (Json.mem_given hm)
  refine Json.isWhole_textValue t.2 m.2 ?_
  rw [(Prod.mk.inj ht).2]
  rfl

/-- The texts of an entry. -/
def AuthEntry.texts (e : AuthEntry) : List (String × String) :=
  AuthEntry.fieldNames.zip [e.username, e.password, e.auth, e.email, e.identityToken,
    e.registryToken, e.serverAddress]

theorem AuthEntry.toValue_eq (e : AuthEntry) : e.toValue = textRecord e.texts := by
  simp only [toValue, textMember_eq, ← Json.given_append]
  rfl

/-- **An entry is read as it was written.** -/
theorem AuthEntry.ofRaw?_toValue (e : AuthEntry) : ofRaw? e.toValue.toRaw = some e := by
  have hnames : e.texts.map Prod.fst = fieldNames := rfl
  have hread := textFields?_textRecord e.texts (by rw [hnames]; decide)
  rw [hnames] at hread
  rw [ofRaw?, toValue_eq, hread]
  rfl

/-- The texts of the proxies of a daemon. -/
def ProxyConfig.texts (p : ProxyConfig) : List (String × String) :=
  ProxyConfig.fieldNames.zip [p.httpProxy, p.httpsProxy, p.noProxy, p.ftpProxy, p.allProxy]

theorem ProxyConfig.toValue_eq (p : ProxyConfig) : p.toValue = textRecord p.texts := by
  simp only [toValue, textMember_eq, ← Json.given_append]
  rfl

/-- **The proxies of a daemon are read as they were written.** -/
theorem ProxyConfig.ofRaw?_toValue (p : ProxyConfig) : ofRaw? p.toValue.toRaw = some p := by
  have hnames : p.texts.map Prod.fst = fieldNames := rfl
  have hread := textFields?_textRecord p.texts (by rw [hnames]; decide)
  rw [hnames] at hread
  rw [ofRaw?, toValue_eq, hread]
  rfl

/-! ### Configurations -/

namespace ConfigFile

/-- An order for each map of a configuration. -/
structure Order (c : ConfigFile) where
  auths : List (String × AuthEntry)
  auths_perm : auths.Perm c.auths.entries
  helpers : List (String × String)
  helpers_perm : helpers.Perm c.credentialHelpers.entries
  proxies : List (String × ProxyConfig)
  proxies_perm : proxies.Perm c.proxies.entries
  headers : List (String × String)
  headers_perm : headers.Perm c.httpHeaders.entries
  aliases : List (String × String)
  aliases_perm : aliases.Perm c.aliases.entries
  other : List (String × Value)
  other_perm : other.Perm c.other.entries

namespace Order

variable {c : ConfigFile}

/-- The order of the keys. -/
def byKey (c : ConfigFile) : Order c where
  auths := c.auths.entries
  auths_perm := .refl _
  helpers := c.credentialHelpers.entries
  helpers_perm := .refl _
  proxies := c.proxies.entries
  proxies_perm := .refl _
  headers := c.httpHeaders.entries
  headers_perm := .refl _
  aliases := c.aliases.entries
  aliases_perm := .refl _
  other := c.other.entries
  other_perm := .refl _

/-- The sections of a configuration as they are written. -/
def sections (o : Order c) : List (String × Option Value) :=
  fieldNames.zip [mapValue AuthEntry.toValue o.auths, textValue c.credentialsStore,
    mapValue .string o.helpers, mapValue ProxyConfig.toValue o.proxies,
    textValue c.currentContext, mapValue .string o.headers, textValue c.psFormat,
    textValue c.imagesFormat, textValue c.networksFormat, textValue c.volumesFormat,
    textValue c.statsFormat, textValue c.detachKeys, textValue c.experimental,
    listValue c.cliPluginsExtraDirs, mapValue .string o.aliases]

/-- A configuration as a value. -/
def toValue (o : Order c) : Value := .object (given o.sections ++ o.other)

end Order

/-- **What a configuration is saved as**, with its maps in some order. -/
def SavedAs (c : ConfigFile) (bytes : List UInt8) : Prop :=
  ∃ o : Order c, bytes = o.toValue.write

theorem savedAs_toJson (c : ConfigFile) : c.SavedAs c.toJson := by
  refine ⟨.byKey c, ?_⟩
  have hvalue : c.toValue = (Order.byKey c).toValue := by
    simp only [toValue, textMember_eq, tableMember_eq, listMember_eq, ← Json.given_append]
    rfl
  rw [toJson, hvalue]

/-- A configuration that can be read again: what has no section is no section, and is whole and
nests as deep as it may. -/
structure Rereadable (c : ConfigFile) : Prop where
  names : ∀ e ∈ c.other.entries, e.1 ∉ fieldNames
  whole : ∀ e ∈ c.other.entries, e.2.IsWhole
  reread : ∀ e ∈ c.other.entries,
    Value.ofRaw? (Value.maxLevels - 1) e.2.toRaw = some e.2

/-- **A configuration is read as it was written.** -/
theorem ofRaw?_toValue {c : ConfigFile} (h : c.Rereadable) (o : Order c) :
    ofRaw? o.toValue.toRaw = some c := by
  have hnames : o.sections.map Prod.fst = fieldNames := rfl
  have hobject := Json.Record.object?_given o.sections o.other (by rw [hnames]; decide)
    (fun m hm => h.names m (o.other_perm.mem_iff.mp hm))
  have hother : Json.allOf otherMember? (o.other.map Json.rawMember) = some (o.other.map id) := by
    refine Json.allOf_map fun m hm => ?_
    rw [otherMember?, Json.rawMember, h.reread m (o.other_perm.mem_iff.mp hm)]
    rfl
  rw [hnames] at hobject
  rw [ofRaw?, Order.toValue, hobject]
  simp only [Order.sections, fieldNames, List.zip_cons_cons, List.zip_nil_right, List.map_cons,
    List.map_nil, Json.defaulted_textValue, Json.defaulted_listValue,
    Json.defaulted_mapValue AuthEntry.ofRaw?_toValue o.auths_perm,
    Json.defaulted_mapValue Json.string?_toRaw o.helpers_perm,
    Json.defaulted_mapValue ProxyConfig.ofRaw?_toValue o.proxies_perm,
    Json.defaulted_mapValue Json.string?_toRaw o.headers_perm,
    Json.defaulted_mapValue Json.string?_toRaw o.aliases_perm, hother, List.map_id,
    Table.ofList_of_perm o.other_perm, Option.bind_eq_bind, Option.bind_some]

/-! ### What is loaded can be read again -/

/-- What a configuration has without a section is no section, and was read in its levels. -/
theorem other_of_ofRaw? {raw : Raw} {c : ConfigFile} (h : ofRaw? raw = some c)
    {e : String × Value} (he : e ∈ c.other.entries) :
    e.1 ∉ fieldNames ∧ ∃ item, Value.ofRaw? (Value.maxLevels - 1) item = some e.2 := by
  unfold ofRaw? at h
  dsimp only at h
  split at h
  · rename_i rest hfields
    iterate 15 obtain ⟨_, -, h⟩ := Option.bind_eq_some_iff.mp h
    obtain ⟨other, hother, h⟩ := Option.bind_eq_some_iff.mp h
    cases h
    obtain ⟨m, hm, hvalue⟩ := Json.exists_of_mem_allOf hother (Table.mem_of_mem_ofList he)
    obtain ⟨v, hv, rfl⟩ := Option.map_eq_some_iff.mp hvalue
    exact ⟨Json.Record.notMem_of_object? hfields hm, m.2, hv⟩
  · cases h

/-- **What is loaded can be read again.** -/
theorem rereadable_of_ofRaw? {raw : Raw} {c : ConfigFile} (h : ofRaw? raw = some c)
    (hwhole : ∀ e ∈ c.other.entries, e.2.IsWhole) : c.Rereadable where
  names _ he := (other_of_ofRaw? h he).1
  whole := hwhole
  reread e he := by
    obtain ⟨item, hitem⟩ := (other_of_ofRaw? h he).2
    exact Value.ofRaw?_toRaw (hwhole e he) hitem

end ConfigFile

/-! ### Normalizing twice -/

/-- An encoded pair that was spread is not spread again. -/
theorem AuthEntry.predecoded_predecoded (e : AuthEntry) : e.predecoded.predecoded = e.predecoded := by
  by_cases h : e.username = "" ∧ e.password = "" ∧ e.auth ≠ ""
  · cases hpair : Auth.decode e.auth with
    | error fault =>
        have hsame : e.predecoded = e := by rw [predecoded, if_pos h, hpair]
        rw [hsame, hsame]
    | ok pair =>
        have hspread : e.predecoded = { e with username := pair.1, password := pair.2 } := by
          rw [predecoded, if_pos h, hpair]
        -- the pair is decoded again only if it is empty, and then it is the same
        rw [hspread, predecoded]
        split
        · dsimp only
          rw [hpair]
        · rfl
  · have hsame : e.predecoded = e := by rw [predecoded, if_neg h]
    rw [hsame, hsame]

namespace Config

variable {α : Type}

/-- What is kept is kept under normalized names. -/
theorem authKey_of_mem_byHost {raw : Table α} {e : String × α}
    (h : e ∈ (byHost raw.entries).entries) : Registry.authKey e.1 = e.1 := by
  have hsome : ((byHost raw.entries).get? e.1).isSome = true := by
    rw [Table.get?_eq_some_iff_mem.mpr h]
    rfl
  obtain ⟨key, -, hkey⟩ := (isSome_get?_byHost_iff (.refl _)).mp hsome
  rw [← hkey, Registry.authKey_authKey]

/-- **Entries under normalized names stay where they are.** -/
theorem byHost_of_normalized {t : Table α} (h : ∀ e ∈ t.entries, Registry.authKey e.1 = e.1) :
    byHost t.entries = t := by
  refine Table.ext_get? fun host => Option.ext fun value => ?_
  -- each host has one name only, its own, and no other entry competes with it
  rw [get?_byHost_iff (.refl _)]
  constructor
  · rintro ⟨key, hkey, rfl, -⟩
    rwa [h (key, value) (Table.get?_eq_some_iff_mem.mp hkey)]
  · intro hvalue
    exact ⟨host, hvalue, h (host, value) (Table.get?_eq_some_iff_mem.mp hvalue), .inl rfl⟩

theorem byHost_byHost (raw : Table α) :
    byHost (byHost raw.entries).entries = byHost raw.entries := by
  refine byHost_of_normalized ?_
  intro e he
  exact authKey_of_mem_byHost he

/-- What is kept of values that were read already is read already. -/
theorem mapValues_byHost {read : α → α} (hread : ∀ a, read (read a) = read a) (raw : Table α) :
    (byHost (raw.mapValues read).entries).mapValues read = byHost (raw.mapValues read).entries := by
  refine Table.ext_get? fun host => ?_
  rw [Table.get?_mapValues]
  cases hvalue : (byHost (raw.mapValues read).entries).get? host with
  | none => rfl
  | some value =>
      rw [get?_byHost_iff (.refl _), chosen_mapValues_iff] at hvalue
      obtain ⟨v, -, rfl⟩ := hvalue
      rw [Option.map_some, hread]

end Config

namespace ConfigFile

/-- **Normalizing twice changes nothing more.** -/
theorem normalized_normalized (c : ConfigFile) : c.normalized.normalized = c.normalized := by
  have hauths : Config.byHost (c.normalized.auths.mapValues AuthEntry.predecoded).entries =
      c.normalized.auths := by
    rw [normalized, Config.mapValues_byHost AuthEntry.predecoded_predecoded, Config.byHost_byHost]
  have hhelpers : Config.byHost c.normalized.credentialHelpers.entries =
      c.normalized.credentialHelpers := Config.byHost_byHost c.credentialHelpers
  rw [normalized, hauths, hhelpers]

theorem isWhole_sections {c : ConfigFile} (o : Order c) :
    ∀ f ∈ o.sections, ∀ v ∈ f.2, v.IsWhole := by
  have hentry (e : AuthEntry) : e.toValue.IsWhole := by
    rw [AuthEntry.toValue_eq]
    exact isWhole_textRecord _
  have hproxies (p : ProxyConfig) : p.toValue.IsWhole := by
    rw [ProxyConfig.toValue_eq]
    exact isWhole_textRecord _
  have htext := Json.isWhole_textValue
  simp only [Order.sections, fieldNames, List.zip_cons_cons, List.zip_nil_right,
    List.forall_mem_cons]
  exact ⟨Json.isWhole_mapValue hentry _, htext _, Json.isWhole_mapValue .string _,
    Json.isWhole_mapValue hproxies _, htext _, Json.isWhole_mapValue .string _, htext _, htext _,
    htext _, htext _, htext _, htext _, htext _, Json.isWhole_listValue _,
    Json.isWhole_mapValue .string _, fun _ hf => absurd hf List.not_mem_nil⟩

/-- A configuration is whole if what it has without a section is. -/
theorem isWhole_toValue {c : ConfigFile} (hwhole : ∀ e ∈ c.other.entries, e.2.IsWhole)
    (o : Order c) : o.toValue.IsWhole := by
  refine .object fun m hm => ?_
  rcases List.mem_append.mp hm with hm | hm
  · exact isWhole_sections o _ (Json.mem_given hm) _ rfl
  · exact hwhole m (o.other_perm.mem_iff.mp hm)

/-- **A loaded configuration is loaded again** from what it is saved as, whatever the order of its
maps, and nothing is left to be normalized. -/
theorem load_saved {origin : String} {bytes : List UInt8} {c : ConfigFile}
    (h : ofJson origin bytes = .ok c) (hwhole : ∀ e ∈ c.other.entries, e.2.IsWhole) :
    c.normalized = c ∧ c.SavedAs c.toJson ∧ ∀ saved, c.SavedAs saved →
      (∃ raw, Raw.read saved = .ok raw ∧ ofRaw? raw = some c) ∧
        ∀ again, ofJson again saved = .ok c := by
  obtain ⟨raw, written, -, hwritten, rfl⟩ := exists_of_ofJson h
  have hnormal : written.normalized.normalized = written.normalized := normalized_normalized written
  have hwritten' : written.Rereadable := rereadable_of_ofRaw? hwritten hwhole
  -- normalizing leaves alone what has no section
  have hreread : written.normalized.Rereadable :=
    ⟨hwritten'.names, hwritten'.whole, hwritten'.reread⟩
  refine ⟨hnormal, savedAs_toJson _, ?_⟩
  rintro saved ⟨o, rfl⟩
  have hread : Raw.read o.toValue.write = .ok o.toValue.toRaw :=
    Value.read_write (isWhole_toValue hwhole o)
  have hconfig : ofRaw? o.toValue.toRaw = some written.normalized := ofRaw?_toValue hreread o
  refine ⟨⟨_, hread, hconfig⟩, fun again => ?_⟩
  rw [ofJson, hread]
  dsimp only
  rw [hconfig]
  dsimp only
  rw [hnormal]

/-- The text of a configuration with an entry under a name that is not normalized, and with a key
that has no section. -/
def plainJson : List UInt8 :=
  Text.encode ("\x7b\"auths\":\x7b\"https://ghcr.io\":\x7b\"auth\":\"dTpw\"\x7d\x7d," ++
    "\"features\":[1,\x7b\"depth\":-2\x7d]\x7d")

/-- What is written for the entry. -/
def plainEntries : Raw :=
  .object [(Text.encode "https://ghcr.io",
    .object [(Text.encode "auth", .string (Text.encode "dTpw"))])]

/-- What is written for the key. -/
def plainFeatures : Raw :=
  .array [.number [0x31], .object [(Text.encode "depth", .number [0x2D, 0x32])]]

/-- The configuration as it is written. -/
def plainConfig : ConfigFile :=
  { auths := Table.ofList [("https://ghcr.io", { auth := "dTpw" })]
    other := Table.ofList [("features",
      .array [.number (.integer 1), .object [("depth", .number (.integer (-2)))]])] }

theorem ofRaw?_plain :
    ofRaw? (.object [(Text.encode "auths", plainEntries), (Text.encode "features", plainFeatures)]) =
      some plainConfig := by
  have hentry : AuthEntry.ofRaw? (.object [(Text.encode "auth", .string (Text.encode "dTpw"))]) =
      some { auth := "dTpw" } := by
    have hfields : Json.Record.fields? AuthEntry.fieldNames
        (.object [(Text.encode "auth", .string (Text.encode "dTpw"))]) =
          some [none, none, some (.string (Text.encode "dTpw")), none, none, none, none] := by
      simp (disch := decide) only [Json.Record.fields?, Json.Record.object?, Json.namedMembers?,
        Json.allOf, Json.member?, Json.textOf?_encode]
      rfl
    simp (disch := decide) only [AuthEntry.ofRaw?, textFields?, hfields, Json.allOf,
      Json.defaulted, Raw.string?, Json.textOf?_encode]
  have hentries : Raw.table? AuthEntry.ofRaw? plainEntries = some plainConfig.auths := by
    simp (disch := decide) only [plainEntries, Raw.table?, Json.allOf, Json.member?, hentry,
      Json.textOf?_encode]
    rfl
  have hfeatures : Json.allOf otherMember? [("features", plainFeatures)] =
      some plainConfig.other.entries := by
    have hone : Json.Number.read? [0x31] = some (.integer 1) := by rfl
    have htwo : Json.Number.read? [0x2D, 0x32] = some (.integer (-2)) := by rfl
    simp (disch := decide) [plainFeatures, Json.allOf, otherMember?, Value.maxLevels,
      Value.ofRaw?, Value.itemsOfRaw?, Value.membersOfRaw?, hone, htwo, Json.textOf?_encode]
    rfl
  have hfields : Json.Record.object? fieldNames
      (.object [(Text.encode "auths", plainEntries), (Text.encode "features", plainFeatures)]) =
        some ([some plainEntries, none, none, none, none, none, none, none, none, none, none, none,
          none, none, none], [("features", plainFeatures)]) := by
    simp (disch := decide) only [Json.Record.object?, Json.namedMembers?, Json.allOf, Json.member?,
      Json.textOf?_encode]
    rfl
  rw [ofRaw?, hfields]
  simp only [Json.defaulted, hentries, hfeatures]
  rfl

/-- Loaded, saved and loaded again. -/
theorem load_saved_plain :
    ofJson "config.json" plainJson = .ok plainConfig.normalized ∧
      ∀ again, ofJson again plainConfig.normalized.toJson = .ok plainConfig.normalized := by
  have hread : Raw.read plainJson = .ok (.object [(Text.encode "auths", plainEntries),
      (Text.encode "features", plainFeatures)]) := by
    rfl
  have hload : ofJson "config.json" plainJson = .ok plainConfig.normalized := by
    simp only [ofJson, hread, ofRaw?_plain]
  have hwhole : ∀ e ∈ plainConfig.normalized.other.entries, e.2.IsWhole := by
    intro e he
    obtain rfl := List.mem_singleton.mp he
    refine .array fun v hv => ?_
    rcases List.mem_cons.mp hv with rfl | hv
    · exact .number ⟨by decide, by decide⟩
    · obtain rfl := List.mem_singleton.mp hv
      refine .object fun m hm => ?_
      obtain rfl := List.mem_singleton.mp hm
      exact .number ⟨by decide, by decide⟩
  obtain ⟨-, hsaved, hagain⟩ := load_saved hload hwhole
  exact ⟨hload, (hagain _ hsaved).2⟩

end ConfigFile

end DockerClient
