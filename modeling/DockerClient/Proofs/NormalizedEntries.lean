import DockerClient.Proofs.SavedConfig

/-
**Normalizing a configuration does not change what its entries mean.**

A pair that is encoded in an entry is decoded in two places: when a configuration is normalized, if
user and password are both empty, and when the pair is asked for, if one of them is.  Whichever comes
first, the same pair is given, or the same error; and normalizing again finds nothing to do.

* `AuthEntry.credentials_eq_error_iff` — **when an entry gives no pair**;
* `AuthEntry.credentials_predecoded` — **decoding early gives the same pair**, or the same error;
* `ConfigFile.normalized_eq_iff` — **what is normalized already**, by its entries and its keys;
* `ConfigFile.normalized_keeps_meaning` — **what normalizing keeps**.
-/

set_option relaxedAutoImplicit false
set_option autoImplicit false

namespace DockerClient

/-! ### Entries -/

namespace AuthEntry

variable {e : AuthEntry} {fault : Error}

/-- **When an entry gives no pair**: it has no token, not both a user and a password, and an encoded
pair that can not be decoded. -/
theorem credentials_eq_error_iff : e.credentials = .error fault ↔
    e.identityToken = "" ∧ ¬(e.username ≠ "" ∧ e.password ≠ "") ∧ e.auth ≠ "" ∧
      Auth.decode e.auth = .error fault := by
  unfold credentials
  constructor
  · intro h
    split at h
    · cases h
    · rename_i htoken
      split at h
      · cases h
      · rename_i hfields
        split at h
        · rename_i hauth
          exact ⟨not_not.mp htoken, hfields, hauth, h⟩
        · cases h
  · rintro ⟨htoken, hfields, hauth, hdecode⟩
    rw [if_neg (not_not.mpr htoken), if_neg hfields, if_pos hauth, hdecode]

/-- What an entry gives that has no user or no password, and something encoded. -/
theorem credentials_of_auth (hfields : ¬(e.username ≠ "" ∧ e.password ≠ "")) (hauth : e.auth ≠ "") :
    e.credentials =
      if e.identityToken ≠ "" then .ok ("", e.identityToken) else Auth.decode e.auth := by
  rw [credentials, if_neg hfields, if_pos hauth]

/-- **Decoding early gives the same pair**, or the same error. -/
theorem credentials_predecoded (e : AuthEntry) : e.predecoded.credentials = e.credentials := by
  have hspread := e.spread_predecoded
  generalize e.predecoded = early at hspread
  cases hspread with
  | keep => rfl
  | @pair user password hempty hpair =>
      have hauth : e.auth ≠ "" := by
        intro hauth
        rw [hauth, Auth.decode_empty] at hpair
        cases hpair
      have hlate : e.credentials =
          if e.identityToken ≠ "" then .ok ("", e.identityToken) else Auth.decode e.auth :=
        credentials_of_auth (fun h => h.1 hempty.1) hauth
      rw [hlate]
      -- a decoded pair with an empty part is decoded once more
      by_cases hboth : user ≠ "" ∧ password ≠ ""
      · rw [credentials, hpair]
        dsimp only
        rw [if_pos hboth]
      · exact credentials_of_auth hboth hauth

/-- Decoding early changes the user and the password alone. -/
theorem predecoded_fields (e : AuthEntry) : e.predecoded =
    { e with username := e.predecoded.username, password := e.predecoded.password } := by
  have hspread := e.spread_predecoded
  generalize e.predecoded = early at hspread
  cases hspread <;> rfl

end AuthEntry

/-! ### Configurations -/

namespace ConfigFile

variable {c : ConfigFile}

/-- **What normalizing makes of the entries**: the one that wins for a host is kept, decoded. -/
theorem get?_normalized_auths {host : String} {kept : AuthEntry} :
    c.normalized.auths.get? host = some kept ↔
      ∃ e, Config.Chosen c.auths host e ∧ kept = e.predecoded := by
  rw [normalized, Config.get?_byHost_iff (.refl _), Config.chosen_mapValues_iff]

/-- **A configuration is normalized already** if its keys are normalized and no entry of it has a
pair to be decoded. -/
theorem normalized_eq_iff : c.normalized = c ↔
    (∀ e ∈ c.auths.entries, Registry.authKey e.1 = e.1 ∧ e.2.predecoded = e.2) ∧
      ∀ e ∈ c.credentialHelpers.entries, Registry.authKey e.1 = e.1 := by
  constructor
  · intro h
    have hauths : Config.byHost (c.auths.mapValues AuthEntry.predecoded).entries = c.auths :=
      congrArg auths h
    have hhelpers : Config.byHost c.credentialHelpers.entries = c.credentialHelpers :=
      congrArg credentialHelpers h
    refine ⟨fun e he => ⟨?_, ?_⟩, fun e he => ?_⟩
    · rw [← hauths] at he
      exact Config.authKey_of_mem_byHost he
    · have hkept : c.normalized.auths.get? e.1 = some e.2 := by
        rw [h]
        exact Table.get?_eq_some_iff_mem.mpr he
      obtain ⟨raw, -, hraw⟩ := get?_normalized_auths.mp hkept
      rw [hraw, AuthEntry.predecoded_predecoded]
    · rw [← hhelpers] at he
      exact Config.authKey_of_mem_byHost he
  · rintro ⟨hentries, hkeys⟩
    have hvalues : c.auths.mapValues AuthEntry.predecoded = c.auths := by
      refine Table.ext_get? fun key => ?_
      rw [Table.get?_mapValues]
      cases hkey : c.auths.get? key with
      | none => rfl
      | some e => rw [Option.map_some, (hentries _ (Table.get?_eq_some_iff_mem.mp hkey)).2]
    rw [normalized, hvalues, Config.byHost_of_normalized fun e he => (hentries e he).1,
      Config.byHost_of_normalized hkeys]

/-- **What normalizing keeps.**  The entry that is kept for a host is the one that wins for it, with
its pair decoded; it gives the same pair as before or the same error, and differs in nothing but its
user and password.  An entry gives an error exactly if it has no token, not both a user and a
password, and something encoded that can not be decoded.  And normalizing twice changes nothing
more: what is normalized already, in entries and keys, stays as it is. -/
theorem normalized_keeps_meaning :
    (∀ (c : ConfigFile) host kept, c.normalized.auths.get? host = some kept ↔
      ∃ e, Config.Chosen c.auths host e ∧ kept = e.predecoded) ∧
    (∀ e : AuthEntry, e.predecoded.credentials = e.credentials ∧
      e.predecoded =
        { e with username := e.predecoded.username, password := e.predecoded.password }) ∧
    (∀ (e : AuthEntry) fault, e.credentials = .error fault ↔
      e.identityToken = "" ∧ ¬(e.username ≠ "" ∧ e.password ≠ "") ∧ e.auth ≠ "" ∧
        Auth.decode e.auth = .error fault) ∧
    (∀ c : ConfigFile, c.normalized.normalized = c.normalized) ∧
    (∀ c : ConfigFile, c.normalized = c ↔
      (∀ e ∈ c.auths.entries, Registry.authKey e.1 = e.1 ∧ e.2.predecoded = e.2) ∧
        ∀ e ∈ c.credentialHelpers.entries, Registry.authKey e.1 = e.1) := by
  refine ⟨?_, ?_, ?_, normalized_normalized, ?_⟩
  · intro c host kept
    exact get?_normalized_auths
  · intro e
    exact ⟨e.credentials_predecoded, e.predecoded_fields⟩
  · intro e fault
    exact AuthEntry.credentials_eq_error_iff
  · intro c
    exact normalized_eq_iff

end ConfigFile

end DockerClient
