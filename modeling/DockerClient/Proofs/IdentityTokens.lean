import DockerClient.Proofs.CredentialOrder

/-
**What is sent as an identity token.**

A source of credentials holds an identity token, which it marks as such, or a user and a password.
What a lookup gives is one pair of texts for both: a token is a secret without a user.  So the
password of a pair whose user is empty is taken for a token, whether the pair was encoded in an
entry or was the answer of a helper.

* `Holding`, `Holding.credentials` — a marked token or a pair, and what is left of the mark;
* `AuthEntry.Holds`, `HelperOutput.Holds`, `Credentials.Source.Holds` — **what a source holds**, as
  it says itself;
* `Credentials.Source.answer_eq_ok_iff` — a source answers with exactly what it holds;
* `Holding.identityToken_toDocker_iff` — what of it is sent as a token;
* `Credentials.identityToken_sent_iff` — **a token is sent exactly if the deciding source marks one,
  or holds a pair without a user**;
* `Credentials.password_sent_as_identityToken` — the second case is not ruled out.
-/

set_option relaxedAutoImplicit false
set_option autoImplicit false

namespace DockerClient

/-! ### What sources hold -/

/-- What a source of credentials holds. -/
inductive Holding where
  | token (secret : String)
  | pair (user password : String)
deriving DecidableEq, Repr

/-- The pair of texts that stands for what is held: nothing but the empty user marks a token. -/
def Holding.credentials : Holding → Credentials
  | .token secret => ⟨"", secret⟩
  | .pair user password => ⟨user, password⟩

/-- **What an entry holds**: its identity token, or else its user and password if it has both, or
else the pair that is encoded in it. -/
inductive AuthEntry.Holds (e : AuthEntry) : Holding → Prop
  | token (htoken : e.identityToken ≠ "") : Holds e (.token e.identityToken)
  | fields (htoken : e.identityToken = "") (huser : e.username ≠ "") (hpassword : e.password ≠ "") :
      Holds e (.pair e.username e.password)
  | encoded {user password : String} (htoken : e.identityToken = "")
      (hfields : e.username = "" ∨ e.password = "") (hauth : e.auth ≠ "")
      (hdecode : Auth.decode e.auth = .ok (user, password)) : Holds e (.pair user password)

/-- **What the output of a helper holds**: a token if the user of the answer says so, and else a
pair. -/
inductive HelperOutput.Holds (out : HelperOutput) : Holding → Prop
  | token {answer : Credentials} (hcode : out.exitCode = some 0)
      (hanswer : Helper.answer? out.stdout = some answer)
      (huser : answer.username = Helper.tokenUser) : Holds out (.token answer.secret)
  | pair {answer : Credentials} (hcode : out.exitCode = some 0)
      (hanswer : Helper.answer? out.stdout = some answer)
      (huser : answer.username ≠ Helper.tokenUser) :
      Holds out (.pair answer.username answer.secret)

namespace AuthEntry

variable {e : AuthEntry} {holding other : Holding}

/-- An entry holds one thing at most. -/
theorem Holds.unique (h : e.Holds holding) (h' : e.Holds other) : holding = other := by
  cases h with
  | token htoken =>
      cases h' with
      | token => rfl
      | fields hnone | encoded hnone => exact absurd hnone htoken
  | fields hnone huser hpassword =>
      cases h' with
      | token htoken => exact absurd hnone htoken
      | fields => rfl
      | encoded _ hfields => exact (hfields.elim huser hpassword).elim
  | encoded hnone hfields _ hdecode =>
      cases h' with
      | token htoken => exact absurd hnone htoken
      | fields _ huser hpassword => exact (hfields.elim huser hpassword).elim
      | encoded _ _ _ hdecode' =>
          rw [hdecode] at hdecode'
          cases hdecode'
          rfl

/-- An entry gives what it holds. -/
theorem credentials_of_holds (h : e.Holds holding) :
    e.credentials = .ok (holding.credentials.username, holding.credentials.secret) := by
  cases h with
  | token htoken => rw [credentials, if_pos htoken]; rfl
  | fields hnone huser hpassword =>
      rw [credentials, if_neg (not_not.mpr hnone), if_pos ⟨huser, hpassword⟩]
      rfl
  | encoded hnone hfields hauth hdecode =>
      have hnot : ¬(e.username ≠ "" ∧ e.password ≠ "") := fun h => hfields.elim h.1 h.2
      rw [credentials, if_neg (not_not.mpr hnone), if_neg hnot, if_pos hauth]
      exact hdecode

/-- An entry that gives something holds it. -/
theorem exists_holds_of_credentials {pair : String × String} (h : e.credentials = .ok pair)
    (hne : pair ≠ ("", "")) :
    ∃ holding, e.Holds holding ∧ holding.credentials = ⟨pair.1, pair.2⟩ := by
  unfold credentials at h
  split at h
  · rename_i htoken
    cases h
    exact ⟨_, .token htoken, rfl⟩
  · rename_i htoken
    split at h
    · rename_i hfields
      cases h
      exact ⟨_, .fields (not_not.mp htoken) hfields.1 hfields.2, rfl⟩
    · rename_i hfields
      split at h
      · rename_i hauth
        have hempty : e.username = "" ∨ e.password = "" := by
          by_contra hboth
          exact hfields (not_or.mp hboth)
        exact ⟨_, .encoded (not_not.mp htoken) hempty hauth h, rfl⟩
      · cases h
        exact absurd rfl hne

end AuthEntry

namespace HelperOutput

variable {out : HelperOutput} {holding other : Holding}

/-- An output holds one thing at most. -/
theorem Holds.unique (h : out.Holds holding) (h' : out.Holds other) : holding = other := by
  cases h with
  | token _ hanswer huser =>
      cases h' with
      | token _ hanswer' => rw [Option.some.inj (hanswer.symm.trans hanswer')]
      | pair _ hanswer' hother =>
          rw [Option.some.inj (hanswer'.symm.trans hanswer)] at hother
          exact absurd huser hother
  | pair _ hanswer huser =>
      cases h' with
      | token _ hanswer' hother =>
          rw [Option.some.inj (hanswer'.symm.trans hanswer)] at hother
          exact absurd hother huser
      | pair _ hanswer' => rw [Option.some.inj (hanswer.symm.trans hanswer')]

/-- An output means what it holds. -/
theorem interpret_of_holds (helper : String) (h : out.Holds holding) :
    Helper.interpret helper out = .ok holding.credentials := by
  cases h with
  | token hcode hanswer huser =>
      simp only [Helper.interpret, if_pos hcode, hanswer, Helper.credentialsOf, if_pos huser]
      rfl
  | pair hcode hanswer huser =>
      simp only [Helper.interpret, if_pos hcode, hanswer, Helper.credentialsOf, if_neg huser]
      rfl

/-- An output that means something holds it. -/
theorem exists_holds_of_interpret {helper : String} {c : Credentials}
    (h : Helper.interpret helper out = .ok c) (hne : c ≠ {}) :
    ∃ holding, out.Holds holding ∧ holding.credentials = c := by
  unfold Helper.interpret at h
  split at h
  · rename_i hcode
    split at h
    · cases h
    · rename_i answer hanswer
      cases h
      by_cases huser : answer.username = Helper.tokenUser
      · exact ⟨_, .token hcode hanswer huser, by rw [Helper.credentialsOf, if_pos huser]; rfl⟩
      · exact ⟨_, .pair hcode hanswer huser, by rw [Helper.credentialsOf, if_neg huser]; rfl⟩
  · -- a helper that fails gives nothing, if it gives no error
    split at h
    · cases h
      exact absurd rfl hne
    · split at h <;> cases h

end HelperOutput

namespace Credentials

namespace Source

/-- **What a source holds for a host**, asked after the given calls. -/
inductive Holds (run : HelperRunner) (before : List HelperCall) (key : String) :
    Source → Holding → Prop
  | entry {e : AuthEntry} {holding : Holding} (h : e.Holds holding) :
      Holds run before key (.entry e) holding
  | helper {source : Source} {store : String} {out : HelperOutput} {holding : Holding}
      (hstore : source.helper? = some store) (hrun : run before (Helper.call store key) = .ok out)
      (h : out.Holds holding) : Holds run before key source holding

variable {run : HelperRunner} {before : List HelperCall} {key : String} {source : Source}
  {holding other : Holding}

/-- A source holds one thing at most. -/
theorem Holds.unique (h : source.Holds run before key holding)
    (h' : source.Holds run before key other) : holding = other := by
  cases h with
  | entry h =>
      cases h' with
      | entry h' => exact h.unique h'
      | helper hstore => cases hstore
  | helper hstore hrun h =>
      cases h' with
      | entry => cases hstore
      | helper hstore' hrun' h' =>
          cases hstore.symm.trans hstore'
          cases hrun.symm.trans hrun'
          exact h.unique h'

/-- A helper that was run says what its output means. -/
theorem result_queryHelper {store : String} {out : HelperOutput}
    (h : run before (Helper.call store key) = .ok out) :
    (queryHelper run before store key).result =
      Helper.interpret (Helper.program store) out := by
  simp only [queryHelper, h]

/-- A source that runs a helper and gets something from it says that. -/
theorem answer_eq_ok_iff_queryHelper {store : String} {c : Credentials}
    (hstore : source.helper? = some store) (hne : c ≠ {}) :
    source.answer run before key = .ok c ↔ (queryHelper run before store key).result = .ok c := by
  cases source with
  | entry => cases hstore
  | helper =>
      cases hstore
      rfl
  | platform =>
      cases hstore
      rw [answer]
      split
      · rename_i hmissing
        rw [hmissing]
        simp [Ne.symm hne]
      · rfl

/-- A source answers with what it holds, unless that is empty. -/
theorem answer_of_holds (h : source.Holds run before key holding)
    (hne : holding.credentials ≠ {}) : source.answer run before key = .ok holding.credentials := by
  cases h with
  | entry h =>
      rw [answer, AuthEntry.credentials_of_holds h]
      rfl
  | helper hstore hrun h =>
      rw [answer_eq_ok_iff_queryHelper hstore hne, result_queryHelper hrun]
      exact HelperOutput.interpret_of_holds _ h

/-- A source that answers with something holds it. -/
theorem exists_holds_of_answer {c : Credentials} (h : source.answer run before key = .ok c)
    (hne : c ≠ {}) : ∃ holding, source.Holds run before key holding ∧ holding.credentials = c := by
  cases hstore : source.helper? with
  | none =>
      cases source with
      | helper | platform => cases hstore
      | entry e =>
          rw [answer] at h
          cases hpair : e.credentials with
          | error fault => simp [hpair, Except.map] at h
          | ok pair =>
              rw [hpair] at h
              cases h
              have hsome : pair ≠ ("", "") := by
                rintro rfl
                exact hne rfl
              obtain ⟨holding, hholds, heq⟩ := AuthEntry.exists_holds_of_credentials hpair hsome
              exact ⟨holding, .entry hholds, heq⟩
  | some store =>
      rw [answer_eq_ok_iff_queryHelper hstore hne] at h
      cases hrun : run before (Helper.call store key) with
      | error fault => simp [queryHelper, hrun] at h
      | ok out =>
          rw [result_queryHelper hrun] at h
          obtain ⟨holding, hholds, heq⟩ := HelperOutput.exists_holds_of_interpret h hne
          exact ⟨holding, .helper hstore hrun hholds, heq⟩

/-- **A source answers with exactly what it holds**, unless that is empty. -/
theorem answer_eq_ok_iff {c : Credentials} (hne : c ≠ {}) :
    source.answer run before key = .ok c ↔
      ∃ holding, source.Holds run before key holding ∧ holding.credentials = c := by
  refine ⟨fun h => exists_holds_of_answer h hne, ?_⟩
  rintro ⟨holding, hholds, rfl⟩
  exact answer_of_holds hholds hne

end Source

end Credentials

/-! ### What is sent -/

theorem nonemptyText_eq_some_iff {s t : String} : nonemptyText s = some t ↔ s = t ∧ t ≠ "" := by
  unfold nonemptyText
  split
  · rename_i h
    simp only [reduceCtorEq, false_iff, not_and]
    rintro rfl ht
    exact ht h
  · rename_i h
    simp only [Option.some.injEq]
    refine ⟨?_, And.left⟩
    rintro rfl
    exact ⟨rfl, h⟩

namespace Holding

/-- **What is sent as an identity token** of what a source holds: a token, and the password of a
pair without a user. -/
theorem identityToken_toDocker_iff {holding : Holding} {server t : String} :
    (holding.credentials.toDocker server).identityToken = some t ↔
      t ≠ "" ∧ (holding = .token t ∨ holding = .pair "" t) := by
  cases holding with
  | token secret =>
      simp [credentials, Credentials.toDocker, nonemptyText_eq_some_iff, and_comm]
  | pair user password =>
      by_cases huser : user = ""
      · simp [credentials, Credentials.toDocker, huser, nonemptyText_eq_some_iff, and_comm]
      · simp [credentials, Credentials.toDocker, huser]

end Holding

namespace Credentials

/-- **What is sent as an identity token.**  If a lookup gives nothing, no token is sent.  Otherwise
it gives what the deciding source holds, the first in order that is not silent; and a token is sent
exactly if that source marks it as one, or holds a pair of an empty user and the token. -/
theorem identityToken_sent_iff {config : ConfigFile} {run : HelperRunner} {host : String}
    {c : Credentials} (h : (lookup config run host).result = .ok c) :
    (c = {} ∧ ∀ server, (c.toDocker server).identityToken = none) ∨
    ∃ passed decider rest holding,
      Source.inOrder config (Registry.authKey host) = passed ++ decider :: rest ∧
      Source.Silent run (Registry.authKey host) [] passed ∧
      decider.Holds run (passed.flatMap (Source.calls (Registry.authKey host)))
        (Registry.authKey host) holding ∧
      (∀ other, decider.Holds run (passed.flatMap (Source.calls (Registry.authKey host)))
        (Registry.authKey host) other → other = holding) ∧
      c = holding.credentials ∧
      ∀ server t, (c.toDocker server).identityToken = some t ↔
        t ≠ "" ∧ (holding = .token t ∨ holding = .pair "" t) := by
  rw [lookup_eq_consult] at h
  rcases Source.consult_decided_or_silent run (Registry.authKey host)
      (Source.inOrder config (Registry.authKey host)) [] with
    ⟨passed, decider, rest, hsplit, hpassed, hdecider, heq⟩ | ⟨-, heq⟩
  · rw [heq] at h
    dsimp only at h
    have hne : c ≠ {} := by
      rintro rfl
      exact hdecider h
    obtain ⟨holding, hholds, rfl⟩ := (Source.answer_eq_ok_iff hne).mp h
    exact .inr ⟨passed, decider, rest, holding, hsplit, hpassed, hholds,
      fun other hother => hother.unique hholds, rfl, fun _ _ => Holding.identityToken_toDocker_iff⟩
  · rw [heq] at h
    cases h
    exact .inl ⟨rfl, fun _ => rfl⟩

/-- A configuration with a helper for one host, whose entry has an identity token. -/
def markedConfig : ConfigFile where
  auths := Table.ofList [("ghcr.io", { username := "u", password := "p", identityToken := "t1" })]
  credentialHelpers := Table.ofList [("ghcr.io", "empty")]

/-- The helpers of a machine where every helper has nothing. -/
def emptyHelper : HelperRunner := fun _ _ =>
  .ok ⟨Text.encode Helper.notFoundText, [], some 1⟩

/-- The helper of the host is silent, so its entry decides, and marks a token. -/
theorem identityToken_sent_iff_marked :
    (lookup markedConfig emptyHelper "https://ghcr.io/v2/").result = .ok ⟨"", "t1"⟩ ∧
      ∃ passed decider rest holding,
        Source.inOrder markedConfig "ghcr.io" = passed ++ decider :: rest ∧
        decider.Holds emptyHelper (passed.flatMap (Source.calls "ghcr.io")) "ghcr.io" holding ∧
        (holding = .token "t1" ∨ holding = .pair "" "t1") := by
  have hresult : (lookup markedConfig emptyHelper "https://ghcr.io/v2/").result =
      .ok ⟨"", "t1"⟩ := by rfl
  have hkey : Registry.authKey "https://ghcr.io/v2/" = "ghcr.io" := by decide
  obtain ⟨hempty, -⟩ | ⟨passed, decider, rest, holding, hsplit, -, hholds, -, -, hsent⟩ :=
    identityToken_sent_iff hresult
  · exact absurd hempty (by decide)
  · rw [hkey] at hsplit hholds
    exact ⟨hresult, passed, decider, rest, holding, hsplit, hholds,
      ((hsent "ghcr.io" "t1").mp (by rfl)).2⟩

/-- An entry that encodes a pair without a user, as it is after loading. -/
def unnamedEntry : AuthEntry := AuthEntry.predecoded { auth := "OnMzY3JldA==" }

/-- A configuration with such an entry. -/
def unnamedConfig : ConfigFile where
  auths := Table.ofList [("ghcr.io", unnamedEntry)]

/-- **The password of a pair without a user is sent as an identity token**, though the source that
decides marks none. -/
theorem password_sent_as_identityToken :
    (lookup unnamedConfig emptyHelper "ghcr.io").result = .ok ⟨"", "s3cret"⟩ ∧
      (Credentials.toDocker ⟨"", "s3cret"⟩ "ghcr.io").identityToken = some "s3cret" ∧
      ¬∃ passed decider rest,
        Source.inOrder unnamedConfig (Registry.authKey "ghcr.io") = passed ++ decider :: rest ∧
        Source.Silent emptyHelper (Registry.authKey "ghcr.io") [] passed ∧
        decider.Holds emptyHelper (passed.flatMap (Source.calls (Registry.authKey "ghcr.io")))
          (Registry.authKey "ghcr.io") (.token "s3cret") := by
  refine ⟨by rfl, by rfl, ?_⟩
  rintro ⟨passed, decider, rest, hsplit, hsilent, hholds⟩
  have horder : Source.inOrder unnamedConfig (Registry.authKey "ghcr.io") =
      [.entry unnamedEntry, .platform] := by rfl
  rw [horder] at hsplit
  cases passed with
  | nil =>
      -- the entry decides, and its identity token is empty
      obtain ⟨rfl, -⟩ := List.cons.inj hsplit
      cases hholds with
      | helper hstore => cases hstore
      | entry h =>
          generalize htoken : Holding.token "s3cret" = holding at h
          cases h with
          | token hmarked => exact hmarked rfl
          | fields | encoded => cases htoken
  | cons first passed =>
      -- the entry is not silent
      obtain ⟨rfl, -⟩ := List.cons.inj hsplit
      have hanswer := hsilent [] _ passed rfl
      have hdecoded : Source.answer emptyHelper [] (Registry.authKey "ghcr.io")
          (.entry unnamedEntry) = .ok ⟨"", "s3cret"⟩ := by rfl
      rw [List.flatMap_nil, List.append_nil, hdecoded] at hanswer
      exact absurd (Except.ok.inj hanswer) (by decide)

end Credentials

end DockerClient
