import DockerClient.Proofs.ReferenceParts

/-
**The grammar of image references.**

`Reference.parse_eq_ok_iff` says which parts a reference is read from by what the parts look like.
The grammar says it by the text: where its name ends, and what the beginning of the name makes of
its first slash.  This module states the grammar, shows that it means the same, and that it leaves
no text two readings.

* `Reference.IsDigest`, `Reference.check_eq_ok_iff` — digests by their digits, and **the check
  accepts exactly these**;
* `Reference.RegistryRule` — which beginning of a name is its registry;
* `Reference.IsRepository`, `Reference.isPath_iff_isRepository` — repositories by their segments;
* `Reference.Parts.Derives` — **the grammar**, which derives the texts of valid parts;
* `Reference.Parts.IsValid.ext_text` — valid parts with the same text are the same;
* `Reference.exists_fault_of_parse` — what is not read is an argument that can not be used;
* `Reference.parse_eq_derivation` — **reading is deriving**: what has a derivation is read as the
  only one says, and everything else is refused.
-/

set_option relaxedAutoImplicit false
set_option autoImplicit false

namespace DockerClient

namespace Reference

/-! ### Digests -/

/-- A hexadecimal digit of either case. -/
def IsHex (c : Char) : Prop :=
  ('0' ≤ c ∧ c ≤ '9') ∨ ('a' ≤ c ∧ c ≤ 'f') ∨ ('A' ≤ c ∧ c ≤ 'F')

/-- What a digest is written as: an algorithm, a colon and as many digits as it produces. -/
def IsDigest (digest : String) : Prop :=
  ∃ algorithm digits, ∃ count : Nat,
    (algorithm, count) ∈ [("sha256", 64), ("sha512", 128)] ∧
      digest = algorithm ++ ":" ++ digits ∧ digits.length = count ∧ ∀ c ∈ digits.toList, IsHex c

theorem isHexDigit_iff {c : Char} : Text.isHexDigit c = true ↔ IsHex c := by
  unfold Text.isHexDigit Text.hexValue? IsHex
  by_cases hdigit : '0' ≤ c ∧ c ≤ '9'
  · simp [hdigit]
  rw [if_neg hdigit]
  by_cases hlower : 'a' ≤ c ∧ c ≤ 'f'
  · simp [hlower]
  rw [if_neg hlower]
  by_cases hupper : 'A' ≤ c ∧ c ≤ 'F'
  · simp [hupper]
  · simp [hdigit, hlower, hupper]

theorem utf8Size_of_isHex {c : Char} (h : IsHex c) : c.utf8Size = 1 := by
  rw [Char.utf8Size_eq_one_iff]
  unfold IsHex at h
  simp only [Char.le_def, UInt32.le_iff_toNat_le] at h ⊢
  rcases h with ⟨-, h⟩ | ⟨-, h⟩ | ⟨-, h⟩ <;> exact Nat.le_trans h (by decide)

theorem utf8ByteSize_ofList {l : List Char} (h : ∀ c ∈ l, c.utf8Size = 1) :
    (String.ofList l).utf8ByteSize = l.length := by
  induction l with
  | nil => rfl
  | cons c l ih =>
      rw [String.ofList_cons, String.utf8ByteSize_append, String.utf8ByteSize_singleton,
        h c (by simp), ih fun d hd => h d (by simp [hd]), List.length_cons, Nat.add_comm]

/-- A text of one-byte characters is as long in bytes as in characters. -/
theorem utf8ByteSize_eq_length {s : String} (h : ∀ c ∈ s.toList, c.utf8Size = 1) :
    s.utf8ByteSize = s.length := by
  rw [← String.length_toList, ← utf8ByteSize_ofList h, String.ofList_toList]

theorem length?_eq_some_iff {algorithm : String} {count : Nat} :
    Digest.length? algorithm = some count ↔
      (algorithm, count) ∈ [("sha256", 64), ("sha512", 128)] := by
  unfold Digest.length?
  split
  · rename_i h
    simp [h, eq_comm]
  · rename_i h256
    split
    · rename_i h
      simp [h, eq_comm]
    · rename_i h512
      simp [h256, h512]

theorem notMem_algorithm {algorithm : String} {count : Nat}
    (h : (algorithm, count) ∈ [("sha256", 64), ("sha512", 128)]) : ':' ∉ algorithm.toList := by
  simp only [List.mem_cons, List.not_mem_nil, or_false, Prod.mk.injEq] at h
  rcases h with ⟨rfl, -⟩ | ⟨rfl, -⟩ <;> decide

/-- **The check accepts exactly the digests.**  It counts bytes, and digits are one byte each. -/
theorem check_eq_ok_iff {digest : String} : Digest.check digest = .ok () ↔ IsDigest digest := by
  have hcheck : Digest.check digest = .ok () ↔ Digest.fault? digest = none := by
    unfold Digest.check
    cases Digest.fault? digest <;> simp
  rw [hcheck]
  constructor
  · intro h
    unfold Digest.fault? at h
    cases hcut : Text.splitFirst digest ':' with
    | none => simp [hcut] at h
    | some parts =>
        obtain ⟨algorithm, digits⟩ := parts
        cases hlength : Digest.length? algorithm with
        | none => simp [hcut, hlength] at h
        | some count =>
            obtain ⟨rfl, -⟩ := Text.splitFirst_eq_some_iff.mp hcut
            simp only [hcut, hlength] at h
            split at h
            · cases h
            · rename_i hbytes
              split at h
              · rename_i hall
                have hhex : ∀ c ∈ digits.toList, IsHex c := fun c hc =>
                  isHexDigit_iff.mp (List.all_eq_true.mp hall c hc)
                have hcount : digits.length = count := by
                  rw [← utf8ByteSize_eq_length fun c hc => utf8Size_of_isHex (hhex c hc)]
                  exact not_not.mp hbytes
                exact ⟨algorithm, digits, count, length?_eq_some_iff.mp hlength, rfl, hcount, hhex⟩
              · cases h
  · rintro ⟨algorithm, digits, count, hmem, rfl, hcount, hhex⟩
    have hcut : Text.splitFirst (algorithm ++ ":" ++ digits) ':' = some (algorithm, digits) :=
      Text.splitFirst_eq_some_iff.mpr ⟨rfl, notMem_algorithm hmem⟩
    have hbytes : digits.utf8ByteSize = count := by
      rw [utf8ByteSize_eq_length fun c hc => utf8Size_of_isHex (hhex c hc), hcount]
    have hall : digits.toList.all Text.isHexDigit = true :=
      List.all_eq_true.mpr fun c hc => isHexDigit_iff.mpr (hhex c hc)
    simp [Digest.fault?, hcut, length?_eq_some_iff.mpr hmem, hbytes, hall]

/-! ### Names -/

/-- **Which beginning of a name is its registry.** -/
inductive RegistryRule (name : String) : Option String → Prop
  /-- A registry with a scheme goes up to the next slash. -/
  | scheme {scheme host rest : String} (hscheme : scheme ∈ Registry.schemes)
      (hhost : '/' ∉ host.toList) (hname : name = scheme ++ host ++ "/" ++ rest) :
      RegistryRule name (some (scheme ++ host))
  /-- Without a scheme, what is before the first slash is the registry if it looks like a host. -/
  | host {first rest : String}
      (hscheme : ∀ scheme ∈ Registry.schemes, ∀ more, name ≠ scheme ++ more)
      (hfirst : '/' ∉ first.toList) (hname : name = first ++ "/" ++ rest)
      (hlooks : '.' ∈ first.toList ∨ ':' ∈ first.toList ∨ first = "localhost") :
      RegistryRule name (some first)
  /-- Otherwise there is none. -/
  | absent (hscheme : ∀ scheme ∈ Registry.schemes, ∀ more, name ≠ scheme ++ more)
      (hfirst : ∀ first rest, name = first ++ "/" ++ rest → '/' ∉ first.toList →
        ¬('.' ∈ first.toList ∨ ':' ∈ first.toList ∨ first = "localhost")) :
      RegistryRule name none

/-- What a repository is written as: segments that are not empty, the last one without a colon. -/
def IsRepository (repository : String) : Prop :=
  ∃ front last, repository = "/".intercalate (front ++ [last]) ∧
    (∀ segment ∈ front ++ [last], segment ≠ "" ∧ '/' ∉ segment.toList) ∧ ':' ∉ last.toList

theorem isPath_iff_isRepository {repository : String} :
    IsPath repository ↔ IsRepository repository ∧ '@' ∉ repository.toList := by
  constructor
  · intro h
    have hat := (isPath_iff.mp h).2.1
    obtain ⟨front, last, hrepository, hsegments, hcolon⟩ := h
    refine ⟨⟨front, last, hrepository, ?_, hcolon⟩, hat⟩
    exact fun segment hmem => ⟨(hsegments segment hmem).1, (hsegments segment hmem).2.1⟩
  · rintro ⟨⟨front, last, rfl, hsegments, hcolon⟩, hat⟩
    have hpieces : Text.pieces ("/".intercalate (front ++ [last])) '/' = front ++ [last] :=
      Text.pieces_intercalate (by simp) fun segment hmem => (hsegments segment hmem).2
    refine ⟨front, last, rfl, ?_, hcolon⟩
    intro segment hmem
    refine ⟨(hsegments segment hmem).1, (hsegments segment hmem).2, fun hsegment => hat ?_⟩
    rw [Text.mem_iff_exists_mem_pieces (c := '/') (by decide), hpieces]
    exact ⟨segment, hmem, hsegment⟩

namespace Parts

/-- **The grammar**: a text is a name without `@`, and then perhaps an `@` and a digest; a name is
made of a registry, if the rule finds one, a repository and perhaps a tag. -/
structure Derives (s : String) (p : Parts) : Prop where
  text : s = p.name ++ digestText p.digest
  name : '@' ∉ p.name.toList
  registry : RegistryRule p.name p.lead
  repository : IsRepository p.repository
  tag : ∀ tag, p.tag = some tag → tag ≠ "" ∧ '/' ∉ tag.toList
  digest : ∀ digest, p.digest = some digest → IsDigest digest

variable {p q : Parts} {s : String}

/-- What has a derivation has valid parts: the `@` is missing from each, since it is from the
name. -/
theorem Derives.isValid (h : p.Derives s) : p.IsValid := by
  have hname := h.name
  simp only [Parts.name, String.toList_append, List.mem_append, not_or] at hname
  obtain ⟨hlead, hrepository, htag⟩ := hname
  refine ⟨?_, ?_, isPath_iff_isRepository.mpr ⟨h.repository, hrepository⟩, ?_, ?_⟩
  · intro lead heq
    have hrule := h.registry
    rw [heq] at hrule hlead
    refine ⟨?_, fun hmem => hlead (by simp [leadText, hmem])⟩
    cases hrule with
    | scheme hscheme hhost _ => exact .inl ⟨_, hscheme, _, rfl, hhost⟩
    | host _ hfirst _ hlooks => exact .inr ⟨hfirst, hlooks⟩
  · intro heq
    have hrule := h.registry
    rw [heq, Parts.name, heq, leadText, String.empty_append] at hrule
    cases hrule with
    | absent _ hfirst =>
        intro first rest hsplit hslash
        rw [Bool.eq_false_iff, ne_eq, looksLikeRegistry_iff]
        exact hfirst first rest hsplit hslash
  · intro tag heq
    refine ⟨(h.tag tag heq).1, (h.tag tag heq).2, fun hmem => htag ?_⟩
    simp [heq, tagText, hmem]
  · exact fun digest heq => check_eq_ok_iff.mpr (h.digest digest heq)

/-- A text of valid parts has them as its derivation. -/
theorem IsValid.derives (h : p.IsValid) : p.Derives p.text := by
  refine ⟨rfl, h.notMem_name, ?_, (isPath_iff_isRepository.mp h.path).1,
    fun tag heq => ⟨(h.tag tag heq).1, (h.tag tag heq).2.1⟩,
    fun digest heq => check_eq_ok_iff.mp (h.digest digest heq)⟩
  cases hlead : p.lead with
  | none =>
      have hbare := h.bare hlead
      rw [Parts.name, hlead, leadText, String.empty_append]
      refine .absent ?_ ?_
      · -- a scheme would begin with what looks like a host
        intro scheme hscheme more heq
        obtain ⟨stem, rfl, hstem, hlooks⟩ := Registry.exists_stem hscheme
        have hno := hbare stem ("/" ++ more) (by simp only [heq, String.append_assoc]) hstem
        simp [hlooks] at hno
      · intro first rest heq hfirst
        rw [← looksLikeRegistry_iff, hbare first rest heq hfirst]
        decide
  | some lead =>
      rw [Parts.name, hlead, leadText]
      rcases (h.lead lead hlead).1 with ⟨scheme, hscheme, host, rfl, hhost⟩ | ⟨hslash, hlooks⟩
      · exact .scheme hscheme hhost rfl
      · refine .host ?_ hslash rfl hlooks
        -- a registry such as `http:` would be a scheme if the repository began with a slash
        intro scheme hscheme more heq
        exact h.path.ne_slash_append _ _ (eq_stem_of_scheme hslash hscheme heq).2

theorem leadText_injective : Function.Injective leadText := by
  intro a b h
  cases a with
  | none =>
      cases b with
      | none => rfl
      | some b => simp [leadText] at h
  | some a =>
      cases b with
      | none => simp [leadText] at h
      | some b => simpa [leadText] using h

/-- **Valid parts with the same text are the same.**  Each cut of the text gives back the parts
around it. -/
theorem IsValid.ext_text (hp : p.IsValid) (hq : q.IsValid) (h : p.text = q.text) : p = q := by
  have hdigest : (p.name, p.digest) = (q.name, q.digest) := by
    rw [← splitDigest_append hp.notMem_name, ← splitDigest_append hq.notMem_name]
    exact congrArg splitDigest h
  obtain ⟨hname, hdigest⟩ := Prod.mk.inj hdigest
  have hrest : p.repository ++ tagText p.tag = q.repository ++ tagText q.tag := by
    have hcut := hp.splitRegistry_name
    rw [hname, hq.splitRegistry_name] at hcut
    exact (Prod.mk.inj (Option.some.inj hcut)).2.symm
  have hlead : p.lead = q.lead := by
    unfold Parts.name at hname
    rw [hrest] at hname
    exact leadText_injective ((String.append_left_inj _).mp hname)
  have htag : (p.repository, p.tag) = (q.repository, q.tag) := by
    obtain ⟨-, -, last, hends, hcolon⟩ := isPath_iff.mp hp.path
    obtain ⟨-, -, last', hends', hcolon'⟩ := isPath_iff.mp hq.path
    rw [← splitTag_append hends hcolon fun t ht => (hp.tag t ht).2.1,
      ← splitTag_append hends' hcolon' fun t ht => (hq.tag t ht).2.1, hrest]
  obtain ⟨hrepository, htag⟩ := Prod.mk.inj htag
  cases p
  cases q
  exact (Parts.mk.injEq ..).mpr ⟨hlead, hrepository, htag, hdigest⟩

end Parts

/-! ### Refusals -/

theorem exists_fault_of_check {digest : String} {e : Error} (h : Digest.check digest = .error e) :
    ∃ fault, e = .invalidArgument fault := by
  unfold Digest.check at h
  split at h
  · cases h
    exact ⟨_, rfl⟩
  · cases h

theorem exists_fault_of_parseName {s name : String} {digest : Option String} {e : Error}
    (h : parseName s name digest = .error e) : ∃ fault, e = .invalidArgument fault := by
  unfold parseName at h
  split at h
  · cases h
    exact ⟨_, rfl⟩
  · dsimp only at h
    split at h
    · cases h
      exact ⟨_, rfl⟩
    · split at h
      · cases h
        exact ⟨_, rfl⟩
      · cases h

/-- **What is not read is an argument that can not be used.** -/
theorem exists_fault_of_parse {s : String} {e : Error} (h : parse s = .error e) :
    ∃ fault, e = .invalidArgument fault := by
  unfold parse at h
  split at h
  · cases h
    exact ⟨_, rfl⟩
  · split at h
    · exact exists_fault_of_parseName h
    · split at h
      · rename_i hcheck
        cases h
        exact exists_fault_of_check hcheck
      · exact exists_fault_of_parseName h

/-! ### Reading is deriving -/

/-- **Reading is deriving.**  A text is read exactly if the grammar derives it: the repository, the
tag and the digest are those of the derivation, and the registry is that of the derivation under its
one name, or the hub if the derivation has none.  No text has two derivations, and a text that has
none is refused as an argument that can not be used. -/
theorem parse_eq_derivation (s : String) :
    (∀ r : Reference, parse s = .ok r ↔
      ∃ p : Parts, p.Derives s ∧
        r.registry = (match p.lead with
          | some lead => Registry.normalize lead
          | none => "index.docker.io") ∧
        r.repository = p.repository ∧ r.tag = p.tag ∧ r.digest = p.digest) ∧
    (∀ p q : Parts, p.Derives s → q.Derives s → p = q) ∧
    ((¬∃ p : Parts, p.Derives s) → ∃ fault, parse s = .error (.invalidArgument fault)) := by
  have hregistry (p : Parts) : p.reference.registry = (match p.lead with
      | some lead => Registry.normalize lead
      | none => "index.docker.io") := by
    unfold Parts.reference
    cases p.lead with
    | none => exact Registry.normalize_hub
    | some lead => rfl
  refine ⟨?_, ?_, ?_⟩
  · intro r
    rw [parse_eq_ok_iff]
    constructor
    · rintro ⟨p, hp, rfl, rfl⟩
      exact ⟨p, hp.derives, hregistry p, rfl, rfl, rfl⟩
    · rintro ⟨p, hp, hreg, hrepository, htag, hdigest⟩
      refine ⟨p, hp.isValid, hp.text.symm, ?_⟩
      cases r
      rw [← hregistry p] at hreg
      simp only at hreg hrepository htag hdigest
      rw [hreg, hrepository, htag, hdigest]
      rfl
  · intro p q hp hq
    exact hp.isValid.ext_text hq.isValid (hp.text.symm.trans hq.text)
  · intro hnone
    cases hread : parse s with
    | ok r =>
        obtain ⟨p, hp, rfl, -⟩ := parse_eq_ok_iff.mp hread
        exact absurd ⟨p, hp.derives⟩ hnone
    | error e =>
        obtain ⟨fault, rfl⟩ := exists_fault_of_parse hread
        exact ⟨fault, rfl⟩

/-- A text with every part, colons in an inner segment and in the tag, and a text without a
repository. -/
theorem parse_eq_derivation_every_part :
    (∃ p : Parts, p.Derives ("https://docker.io/a:b/c:1:2@sha256:" ++
          "7d0d8fa9b6cbbfd96b1a0f0c5e9d5c5f5c5f5c5f5c5f5c5f5c5f5c5f5c5f5c5f") ∧
        p.repository = "a:b/c" ∧ p.tag = some "1:2") ∧
      (¬∃ p : Parts, p.Derives "ghcr.io/") ∧
      ∃ fault, parse "ghcr.io/" = .error (.invalidArgument fault) := by
  have hnone : ¬∃ p : Parts, p.Derives "ghcr.io/" := by
    rintro ⟨p, hp⟩
    have hread := ((parse_eq_derivation "ghcr.io/").1
      ⟨_, p.repository, p.tag, p.digest⟩).mpr ⟨p, hp, rfl, rfl, rfl, rfl⟩
    have hfault : parse "ghcr.io/" = .error (.invalidArgument (.invalidRepository "ghcr.io/")) := by
      rfl
    rw [hfault] at hread
    cases hread
  have hread : parse ("https://docker.io/a:b/c:1:2@sha256:" ++
        "7d0d8fa9b6cbbfd96b1a0f0c5e9d5c5f5c5f5c5f5c5f5c5f5c5f5c5f5c5f5c5f") =
      .ok ⟨"index.docker.io", "a:b/c", some "1:2", some ("sha256:" ++
        "7d0d8fa9b6cbbfd96b1a0f0c5e9d5c5f5c5f5c5f5c5f5c5f5c5f5c5f5c5f5c5f")⟩ := by
    rfl
  obtain ⟨p, hp, -, hrepository, htag, -⟩ := ((parse_eq_derivation _).1 _).mp hread
  exact ⟨⟨p, hp, hrepository.symm, htag.symm⟩, hnone, (parse_eq_derivation _).2.2 hnone⟩

end Reference

end DockerClient
