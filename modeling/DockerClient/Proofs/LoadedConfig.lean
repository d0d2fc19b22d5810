import DockerClient.Config.Reader
import DockerClient.Proofs.HostKeys
import DockerClient.Proofs.WrittenRecords

/-
**Looking up hosts in a loaded configuration.**

A configuration is loaded from the sections of a JSON object.  Two of them name hosts and are
gathered under one key for each host.  What a lookup finds afterwards is said here of the sections
as they are written, for every configuration that can be loaded.

* `ConfigFile.writtenSection?`, `ConfigFile.sections_of_ofRaw?` — the sections as they are written;
* `AuthEntry.Spread`, `AuthEntry.spread_predecoded` — an entry with its encoded pair spread;
* `Config.Gathered`, `Config.gathered_byHost` — **lookups by host**, as a choice from what is
  written;
* `ConfigFile.lookups_of_ofJson` — **the lookups of a loaded configuration**.
-/

set_option relaxedAutoImplicit false
set_option autoImplicit false

namespace DockerClient

open Json (Raw)

/-! ### Sections as they are written -/

namespace Json

theorem unescape_of_notMem {bytes : List UInt8} (h : 0x5C ∉ bytes) :
    unescape bytes = some bytes := by
  induction bytes with
  | nil => rfl
  | cons b rest ih =>
      rw [List.mem_cons, not_or] at h
      rw [unescape.eq_def]
      dsimp only
      rw [if_neg (Ne.symm h.1), ih h.2, Option.map_some]

/-- A string without escapes stands for the text that it is written with. -/
theorem textOf?_encode {s : String} (h : 0x5C ∉ Text.encode s) :
    textOf? (Text.encode s) = some s := by
  rw [textOf?, unescape_of_notMem h]
  exact Text.decode?_encode s

end Json

namespace ConfigFile

/-- **A section as it is written**: the member of an object that has its name, empty without one. -/
def writtenSection? {α : Type} (name : String) (f : Raw → Option α) : Raw → Option (Table α)
  | .object members => do
      let named ← Json.namedMembers? members
      let field ← Json.field? named name
      Json.defaulted (Raw.table? f) Table.empty field
  | _ => none

/-- The sections of a configuration that name hosts are those that are written. -/
theorem sections_of_ofRaw? {raw : Raw} {c : ConfigFile} (h : ofRaw? raw = some c) :
    writtenSection? "auths" AuthEntry.ofRaw? raw = some c.auths ∧
      writtenSection? "credHelpers" Raw.string? raw = some c.credentialHelpers := by
  unfold ofRaw? at h
  dsimp only at h
  split at h
  · rename_i auths store helpers _ _ _ _ _ _ _ _ _ _ _ _ rest hfields
    obtain ⟨members, named, rfl, hnamed, hfields⟩ := Json.Record.exists_members_of_object? hfields
    simp only [fieldNames, List.forall₂_cons] at hfields
    obtain ⟨hauths, -, hhelpers, -⟩ := hfields
    obtain ⟨auths', hauths', h⟩ := Option.bind_eq_some_iff.mp h
    obtain ⟨_, -, h⟩ := Option.bind_eq_some_iff.mp h
    obtain ⟨helpers', hhelpers', h⟩ := Option.bind_eq_some_iff.mp h
    -- the other sections are read after these and do not matter
    iterate 13 obtain ⟨_, -, h⟩ := Option.bind_eq_some_iff.mp h
    cases h
    simp [writtenSection?, hnamed, hauths, hauths', hhelpers, hhelpers']
  · cases h

end ConfigFile

/-! ### Encoded pairs -/

/-- **An entry with its encoded pair spread**: where user and password are both empty and the pair
can be decoded, it takes their place, and nothing else changes. -/
inductive AuthEntry.Spread (entry : AuthEntry) : AuthEntry → Prop
  | pair {user password : String} (hempty : entry.username = "" ∧ entry.password = "")
      (hpair : Auth.decode entry.auth = .ok (user, password)) :
      Spread entry { entry with username := user, password := password }
  | keep (h : entry.username ≠ "" ∨ entry.password ≠ "" ∨
        ∃ e, Auth.decode entry.auth = .error e) : Spread entry entry

theorem Auth.decode_empty : Auth.decode "" = .error (.invalidArgument .authSeparator) := by
  rfl

theorem AuthEntry.spread_predecoded (entry : AuthEntry) : Spread entry entry.predecoded := by
  unfold predecoded
  split
  · rename_i h
    split
    · rename_i user password hpair
      exact .pair ⟨h.1, h.2.1⟩ hpair
    · rename_i e herror
      exact .keep (.inr (.inr ⟨e, herror⟩))
  · rename_i h
    refine .keep ?_
    -- an empty pair is not even tried, and could not be decoded
    by_cases hauth : entry.auth = ""
    · exact .inr (.inr ⟨_, by rw [hauth, Auth.decode_empty]⟩)
    · by_contra hnot
      simp only [not_or, not_not] at hnot
      exact h ⟨hnot.1, hnot.2.1, hauth⟩

/-! ### Lookups -/

namespace Config

variable {α : Type}

/-- **What is gathered by host** from a written section, where `read` is what becomes of a value and
`lookup` finds what is kept for a host. -/
structure Gathered (written : Table α) (read : α → α) (kept : Table α)
    (lookup : String → Option α) : Prop where
  /-- Something is found for a host exactly if one of its names is written. -/
  found_iff : ∀ host, (lookup host).isSome = true ↔
    ∃ name, (written.get? name).isSome = true ∧ Registry.authKey name = Registry.authKey host
  /-- What is found is the value of the name that wins. -/
  found_eq_iff : ∀ host value, lookup host = some value ↔
    ∃ v, Chosen written (Registry.authKey host) v ∧ value = read v
  /-- The keys are the normalized names. -/
  mem_keys_iff : ∀ key, key ∈ kept.entries.map Prod.fst ↔
    ∃ name, (written.get? name).isSome = true ∧ Registry.authKey name = key
  /-- Each key is there once. -/
  nodup_keys : (kept.entries.map Prod.fst).Nodup
  /-- The order in which the section is gone through is of no importance. -/
  any_order : ∀ order : List (String × α), order.Perm written.entries →
    byHost (order.map fun e => (e.1, read e.2)) = kept

theorem chosen_mapValues_iff {written : Table α} {read : α → α} {host : String} {value : α} :
    Chosen (written.mapValues read) host value ↔ ∃ v, Chosen written host v ∧ value = read v := by
  constructor
  · rintro ⟨name, hname, hhost, hwins⟩
    rw [Table.get?_mapValues, Option.map_eq_some_iff] at hname
    obtain ⟨v, hv, rfl⟩ := hname
    refine ⟨v, ⟨name, hv, hhost, ?_⟩, rfl⟩
    simpa using hwins
  · rintro ⟨v, ⟨name, hname, hhost, hwins⟩, rfl⟩
    refine ⟨name, by simp [hname], hhost, ?_⟩
    simpa using hwins

theorem gathered_byHost (written : Table α) (read : α → α) :
    Gathered written read (byHost (written.mapValues read).entries)
      fun host => (byHost (written.mapValues read).entries).get? (Registry.authKey host) where
  found_iff host := by
    rw [isSome_get?_byHost_iff (.refl _)]
    simp
  found_eq_iff host value := by
    rw [get?_byHost_iff (.refl _), chosen_mapValues_iff]
  mem_keys_iff key := by
    rw [← Table.isSome_get?_iff, isSome_get?_byHost_iff (.refl _)]
    simp
  nodup_keys := Table.nodup_keys _
  any_order order horder := byHost_perm (horder.map _)

end Config

/-! ### Loaded configurations -/

namespace ConfigFile

/-- What is loaded is a configuration as it is written, normalized. -/
theorem exists_of_ofJson {origin : String} {bytes : List UInt8} {c : ConfigFile}
    (h : ofJson origin bytes = .ok c) :
    ∃ raw written, Raw.read bytes = .ok raw ∧ ofRaw? raw = some written ∧
      c = written.normalized := by
  unfold ofJson at h
  split at h
  · cases h
  · rename_i raw hraw
    split at h
    · cases h
    · rename_i written hwritten
      cases h
      exact ⟨raw, written, hraw, hwritten, rfl⟩

/-- **The lookups of a loaded configuration** are a choice from the sections as they are written. -/
theorem lookups_of_ofJson {origin : String} {bytes : List UInt8} {c : ConfigFile}
    (h : ofJson origin bytes = .ok c) :
    ∃ raw auths helpers, Raw.read bytes = .ok raw ∧
      writtenSection? "auths" AuthEntry.ofRaw? raw = some auths ∧
      writtenSection? "credHelpers" Raw.string? raw = some helpers ∧
      Config.Gathered auths AuthEntry.predecoded c.auths c.authFor? ∧
      (∀ entry : AuthEntry, entry.Spread entry.predecoded) ∧
      Config.Gathered helpers id c.credentialHelpers c.helperFor? := by
  obtain ⟨raw, written, hraw, hwritten, rfl⟩ := exists_of_ofJson h
  obtain ⟨hauths, hhelpers⟩ := sections_of_ofRaw? hwritten
  refine ⟨raw, written.auths, written.credentialHelpers, hraw, hauths, hhelpers,
    Config.gathered_byHost written.auths AuthEntry.predecoded, AuthEntry.spread_predecoded, ?_⟩
  have hid : written.credentialHelpers.mapValues id = written.credentialHelpers :=
    Table.ext_get? fun key => by simp
  have := Config.gathered_byHost written.credentialHelpers id
  rwa [hid] at this

/-- A section that names one host by two names, neither of which is normalized, and another one by
a normalized name that is the greater of two. -/
def aliasSection : Raw :=
  .object [(Text.encode "https://quay.io", .string (Text.encode "b")),
    (Text.encode "http://quay.io", .string (Text.encode "a")),
    (Text.encode "http://zot.io", .string (Text.encode "c")),
    (Text.encode "zot.io", .string (Text.encode "d"))]

/-- The text of a configuration with nothing but that section. -/
def aliasJson : List UInt8 :=
  Text.encode ("\x7b\"credHelpers\":\x7b\"https://quay.io\":\"b\",\"http://quay.io\":\"a\"," ++
    "\"http://zot.io\":\"c\",\"zot.io\":\"d\"\x7d\x7d")

/-- The configuration as it is written. -/
def aliasConfig : ConfigFile :=
  { credentialHelpers := Table.ofList
      [("https://quay.io", "b"), ("http://quay.io", "a"), ("http://zot.io", "c"), ("zot.io", "d")] }

theorem ofRaw?_aliasSection :
    ofRaw? (.object [(Text.encode "credHelpers", aliasSection)]) = some aliasConfig := by
  have htable : Raw.table? Raw.string? aliasSection = some aliasConfig.credentialHelpers := by
    simp (disch := decide) only [aliasSection, Raw.table?, Json.allOf, Json.member?, Raw.string?,
      Json.textOf?_encode]
    rfl
  have hfields : Json.Record.object? fieldNames
      (.object [(Text.encode "credHelpers", aliasSection)]) =
        some ([none, none, some aliasSection, none, none, none, none, none, none, none, none, none,
          none, none, none], []) := by
    simp (disch := decide) only [Json.Record.object?, Json.namedMembers?, Json.allOf, Json.member?,
      Json.textOf?_encode]
    rfl
  rw [ofRaw?, hfields]
  simp only [Json.defaulted, htable]
  rfl

/-- A normalized name wins over a smaller one; of two that are not, the smaller one wins. -/
theorem lookups_of_ofJson_aliases :
    ofJson "config.json" aliasJson = .ok aliasConfig.normalized ∧
      aliasConfig.normalized.helperFor? "quay.io" = some "a" ∧
      aliasConfig.normalized.helperFor? "https://zot.io/v2/" = some "d" := by
  have hread : Raw.read aliasJson = .ok (.object [(Text.encode "credHelpers", aliasSection)]) := by
    rfl
  have hload : ofJson "config.json" aliasJson = .ok aliasConfig.normalized := by
    simp only [ofJson, hread, ofRaw?_aliasSection]
  obtain ⟨raw, auths, helpers, hraw, -, hhelpers, -, -, hgathered⟩ := lookups_of_ofJson hload
  rw [hread] at hraw
  cases hraw
  obtain rfl : aliasConfig.credentialHelpers = helpers :=
    Option.some.inj ((sections_of_ofRaw? ofRaw?_aliasSection).2.symm.trans hhelpers)
  have hleast : ∀ other, (aliasConfig.credentialHelpers.get? other).isSome = true →
      Registry.authKey other = "quay.io" → Text.encode "http://quay.io" ≤ Text.encode other := by
    intro other hother _
    have hentries : aliasConfig.credentialHelpers.entries.map Prod.fst =
        ["http://quay.io", "http://zot.io", "https://quay.io", "zot.io"] := by rfl
    rw [Table.isSome_get?_iff, hentries] at hother
    rw [Text.encode_le_encode_iff]
    simp only [List.mem_cons, List.not_mem_nil, or_false] at hother
    rcases hother with rfl | rfl | rfl | rfl <;> decide
  have hquay : Registry.authKey "quay.io" = "quay.io" := by decide
  have hzot : Registry.authKey "https://zot.io/v2/" = "zot.io" := by decide
  refine ⟨hload, ?_, ?_⟩
  · rw [hgathered.found_eq_iff "quay.io" "a", hquay]
    exact ⟨"a", ⟨"http://quay.io", by rfl, by decide, .inr ⟨by rfl, hleast⟩⟩, rfl⟩
  · rw [hgathered.found_eq_iff "https://zot.io/v2/" "d", hzot]
    exact ⟨"d", ⟨"zot.io", by rfl, by decide, .inl rfl⟩, rfl⟩

end ConfigFile

end DockerClient
