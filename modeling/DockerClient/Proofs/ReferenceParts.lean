import DockerClient.Image.Reference
import DockerClient.Proofs.RegistryNames

/-
**What image references are written from.**

Reading a reference cuts it at the first `@`, at the first `/` after a registry, at the last `/` and
at the first `:` after that.  All cuts together name one decomposition of the text: this module says
which texts are made of which parts, without any cut.

* `Reference.IsLead`, `Reference.IsBare`, `Reference.IsPath`, `Reference.IsTag` — what a registry,
  a name without a registry, a repository and a tag look like;
* `Reference.Parts`, `Reference.Parts.text`, `Reference.Parts.reference` — the parts of a text, the
  text and the reference that they make;
* `Reference.Parts.IsValid` — parts that can be told apart in the text;
* `Reference.splitRegistry_append`, `Reference.of_splitRegistry` — the registry of a name, from its
  parts and back; likewise `Reference.splitTag_append`, `Reference.of_splitTag` and
  `Reference.splitDigest_append`, `Reference.of_splitDigest`;
* `Reference.parse_eq_ok_iff` — **a reference is read from exactly the texts of its valid parts**.
-/

set_option relaxedAutoImplicit false
set_option autoImplicit false

namespace DockerClient

namespace Reference

/-! ### The shape of the parts -/

/-- What a registry is written as: a scheme and a host without a slash, which may be empty, or a
text without a slash that has a dot or a colon or is `localhost`. -/
def IsLead (lead : String) : Prop :=
  (∃ scheme ∈ Registry.schemes, ∃ host, lead = scheme ++ host ∧ '/' ∉ host.toList) ∨
    ('/' ∉ lead.toList ∧ ('.' ∈ lead.toList ∨ ':' ∈ lead.toList ∨ lead = "localhost"))

/-- A name without a registry: what is before its first slash does not look like one. -/
def IsBare (name : String) : Prop :=
  ∀ first rest, name = first ++ "/" ++ rest → '/' ∉ first.toList →
    Registry.looksLikeRegistry first = false

/-- What a repository is written as: segments that are not empty, the last one without a colon. -/
def IsPath (repository : String) : Prop :=
  ∃ front last, repository = "/".intercalate (front ++ [last]) ∧
    (∀ segment ∈ front ++ [last],
      segment ≠ "" ∧ '/' ∉ segment.toList ∧ '@' ∉ segment.toList) ∧ ':' ∉ last.toList

/-- What a tag is written as. -/
def IsTag (tag : String) : Prop := tag ≠ "" ∧ '/' ∉ tag.toList ∧ '@' ∉ tag.toList

/-- What follows the last slash of a text, or all of it if it has none. -/
def EndsIn (s last : String) : Prop :=
  '/' ∉ last.toList ∧ (s = last ∨ ∃ path, s = path ++ "/" ++ last)

theorem looksLikeRegistry_iff {part : String} :
    Registry.looksLikeRegistry part = true ↔
      '.' ∈ part.toList ∨ ':' ∈ part.toList ∨ part = "localhost" := by
  simp [Registry.looksLikeRegistry, or_assoc]

/-! ### The cut after the registry -/

theorem splitFirst_slash {s a b : String} :
    Text.splitFirst s '/' = some (a, b) ↔ s = a ++ "/" ++ b ∧ '/' ∉ a.toList :=
  Text.splitFirst_eq_some_iff

/-- A text has one first slash. -/
theorem slash_inj {a b x y : String} (ha : '/' ∉ a.toList) (hx : '/' ∉ x.toList)
    (h : a ++ "/" ++ b = x ++ "/" ++ y) : a = x ∧ b = y :=
  Text.around_inj ha hx h

/-- A text with a scheme begins with what looks like a registry, and two slashes. -/
theorem eq_stem_of_scheme {a b scheme rest : String} (ha : '/' ∉ a.toList)
    (hscheme : scheme ∈ Registry.schemes) (h : a ++ "/" ++ b = scheme ++ rest) :
    Registry.looksLikeRegistry a = true ∧ b = "/" ++ rest := by
  obtain ⟨stem, rfl, hstem, hlooks⟩ := Registry.exists_stem hscheme
  obtain ⟨rfl, rfl⟩ := slash_inj ha hstem (h.trans String.append_assoc)
  exact ⟨hlooks, rfl⟩

/-- After a scheme, whatever is before the next slash is a registry. -/
theorem splitRegistry_scheme {scheme : String} (h : scheme ∈ Registry.schemes) (more : String) :
    splitRegistry (scheme ++ more) =
      (Text.splitFirst more '/').map fun parts => (scheme ++ parts.1, parts.2) := by
  have hne : scheme ≠ "" := Registry.ne_empty_of_mem_schemes h
  rw [splitRegistry, Registry.splitScheme_append h]
  cases hcut : Text.splitFirst more '/' <;> simp [hcut, hne]

/-- Without a scheme, what is before the first slash is a registry if it looks like one. -/
theorem splitRegistry_first {first tail : String} (hfirst : '/' ∉ first.toList)
    (hscheme : ∀ scheme ∈ Registry.schemes, ∀ more, first ++ "/" ++ tail ≠ scheme ++ more) :
    splitRegistry (first ++ "/" ++ tail) =
      if Registry.looksLikeRegistry first = true then some (first, tail)
      else some (Registry.hub, first ++ "/" ++ tail) := by
  have hcut : Text.splitFirst (first ++ "/" ++ tail) '/' = some (first, tail) :=
    splitFirst_slash.mpr ⟨rfl, hfirst⟩
  rw [splitRegistry, Registry.splitScheme_of_not hscheme]
  simp [hcut]

theorem splitRegistry_of_notMem {name : String} (h : '/' ∉ name.toList) :
    splitRegistry name = some (Registry.hub, name) := by
  rw [splitRegistry, Registry.splitScheme_of_notMem h]
  simp [Text.splitFirst_eq_none_iff.mpr h]

/-- **A registry is cut off** from what does not begin with a slash. -/
theorem splitRegistry_append {lead rest : String} (hlead : IsLead lead)
    (hrest : ∀ more, rest ≠ "/" ++ more) :
    splitRegistry (lead ++ "/" ++ rest) = some (lead, rest) := by
  rcases hlead with ⟨scheme, hscheme, host, rfl, hhost⟩ | ⟨hslash, hlooks⟩
  · have hcut : Text.splitFirst (host ++ "/" ++ rest) '/' = some (host, rest) :=
      splitFirst_slash.mpr ⟨rfl, hhost⟩
    have hname : scheme ++ host ++ "/" ++ rest = scheme ++ (host ++ "/" ++ rest) := by
      simp only [String.append_assoc]
    rw [hname, splitRegistry_scheme hscheme, hcut, Option.map_some]
  · rw [splitRegistry_first hslash, if_pos (looksLikeRegistry_iff.mpr hlooks)]
    -- a registry such as `http:` would be a scheme if another slash followed
    intro scheme hscheme more heq
    exact hrest _ (eq_stem_of_scheme hslash hscheme heq).2

/-- **A name without a registry** is on the hub. -/
theorem splitRegistry_of_isBare {name : String} (h : IsBare name) :
    splitRegistry name = some (Registry.hub, name) := by
  cases hcut : Text.splitFirst name '/' with
  | none => exact splitRegistry_of_notMem (Text.splitFirst_eq_none_iff.mp hcut)
  | some parts =>
      obtain ⟨first, tail⟩ := parts
      obtain ⟨rfl, hfirst⟩ := splitFirst_slash.mp hcut
      have hlooks : Registry.looksLikeRegistry first = false := h first tail rfl hfirst
      refine (splitRegistry_first hfirst ?_).trans (if_neg (by simp [hlooks]))
      intro scheme hscheme more heq
      exact Bool.eq_false_iff.mp hlooks (eq_stem_of_scheme hfirst hscheme heq).1

/-- What is cut off is a registry, or there is none. -/
theorem of_splitRegistry {name registry rest : String}
    (h : splitRegistry name = some (registry, rest)) :
    (IsLead registry ∧ name = registry ++ "/" ++ rest) ∨
      (registry = Registry.hub ∧ rest = name ∧ IsBare name) := by
  by_cases hscheme : ∃ scheme ∈ Registry.schemes, ∃ more, name = scheme ++ more
  · obtain ⟨scheme, hscheme, more, rfl⟩ := hscheme
    rw [splitRegistry_scheme hscheme, Option.map_eq_some_iff] at h
    obtain ⟨⟨first, tail⟩, hcut, heq⟩ := h
    obtain ⟨rfl, hfirst⟩ := splitFirst_slash.mp hcut
    cases heq
    exact .inl ⟨.inl ⟨scheme, hscheme, first, rfl, hfirst⟩, by simp [String.append_assoc]⟩
  · cases hcut : Text.splitFirst name '/' with
    | none =>
        have hslash := Text.splitFirst_eq_none_iff.mp hcut
        rw [splitRegistry_of_notMem hslash] at h
        cases h
        refine .inr ⟨rfl, rfl, ?_⟩
        rintro first rest rfl
        simp at hslash
    | some parts =>
        obtain ⟨first, tail⟩ := parts
        obtain ⟨rfl, hfirst⟩ := splitFirst_slash.mp hcut
        rw [splitRegistry_first hfirst
          fun scheme hmem more heq => hscheme ⟨scheme, hmem, more, heq⟩] at h
        split at h
        · rename_i hlooks
          cases h
          exact .inl ⟨.inr ⟨hfirst, looksLikeRegistry_iff.mp hlooks⟩, rfl⟩
        · rename_i hlooks
          cases h
          refine .inr ⟨rfl, rfl, ?_⟩
          intro other rest heq hother
          obtain ⟨rfl, -⟩ := slash_inj hfirst hother heq
          exact Bool.eq_false_iff.mpr hlooks

/-! ### The cut before the tag -/

/-- The text of a tag, if there is one. -/
def tagText : Option String → String
  | some tag => ":" ++ tag
  | none => ""

theorem notMem_tagText {tag : Option String} {c : Char} (hc : c ≠ ':')
    (h : ∀ t, tag = some t → c ∉ t.toList) : c ∉ (tagText tag).toList := by
  cases tag with
  | none => simp [tagText]
  | some t => simp [tagText, hc, h t rfl]

theorem splitFirst_tagText {last : String} (h : ':' ∉ last.toList) (tag : Option String) :
    Text.splitFirst (last ++ tagText tag) ':' = tag.map fun t => (last, t) := by
  cases tag with
  | none =>
      rw [tagText, String.append_empty, Option.map_none]
      exact Text.splitFirst_eq_none_iff.mpr h
  | some t =>
      rw [tagText, ← String.append_assoc, Option.map_some]
      exact Text.splitFirst_eq_some_iff.mpr ⟨rfl, h⟩

/-- **A tag is cut off** from a repository whose last segment has no colon. -/
theorem splitTag_append {repository last : String} {tag : Option String}
    (hends : EndsIn repository last) (hcolon : ':' ∉ last.toList)
    (htag : ∀ t, tag = some t → '/' ∉ t.toList) :
    splitTag (repository ++ tagText tag) = (repository, tag) := by
  obtain ⟨hslash, hends⟩ := hends
  have hnoslash : '/' ∉ (last ++ tagText tag).toList := by
    simp [hslash, notMem_tagText (by decide) htag]
  have hcut := splitFirst_tagText hcolon tag
  rcases hends with rfl | ⟨path, rfl⟩
  · rw [splitTag, Text.splitLast_eq_none_iff.mpr hnoslash]
    dsimp only
    rw [hcut]
    cases tag with
    | none => simp [tagText]
    | some t => rfl
  · have hlast : Text.splitLast (path ++ "/" ++ last ++ tagText tag) '/' =
        some (path, last ++ tagText tag) :=
      Text.splitLast_eq_some_iff.mpr ⟨String.append_assoc, hnoslash⟩
    rw [splitTag, hlast]
    dsimp only
    rw [hcut]
    cases tag with
    | none => simp [tagText]
    | some t => rfl

/-- What is cut off is a tag, or there is none. -/
theorem of_splitTag {rest repository : String} {tag : Option String}
    (h : splitTag rest = (repository, tag)) :
    rest = repository ++ tagText tag ∧ (∀ t, tag = some t → '/' ∉ t.toList) ∧
      ∃ last, EndsIn repository last ∧ ':' ∉ last.toList := by
  unfold splitTag at h
  cases hlast : Text.splitLast rest '/' with
  | some parts =>
      obtain ⟨path, segment⟩ := parts
      obtain ⟨rfl, hslash⟩ := Text.splitLast_eq_some_iff.mp hlast
      cases hcut : Text.splitFirst segment ':' with
      | some parts =>
          obtain ⟨name, t⟩ := parts
          obtain ⟨rfl, hcolon⟩ := Text.splitFirst_eq_some_iff.mp hcut
          simp only [hlast, hcut, Prod.mk.injEq] at h
          obtain ⟨rfl, rfl⟩ := h
          simp only [String.toList_append, List.mem_append, not_or] at hslash
          refine ⟨by simp [tagText, String.append_assoc], ?_, name, ⟨hslash.1.1, ?_⟩, hcolon⟩
          · rintro _ ⟨rfl⟩
            exact hslash.2
          · exact .inr ⟨path, rfl⟩
      | none =>
          simp only [hlast, hcut, Prod.mk.injEq] at h
          obtain ⟨rfl, rfl⟩ := h
          exact ⟨by simp [tagText], by simp, segment, ⟨hslash, .inr ⟨path, rfl⟩⟩,
            Text.splitFirst_eq_none_iff.mp hcut⟩
  | none =>
      have hslash := Text.splitLast_eq_none_iff.mp hlast
      cases hcut : Text.splitFirst rest ':' with
      | some parts =>
          obtain ⟨name, t⟩ := parts
          obtain ⟨rfl, hcolon⟩ := Text.splitFirst_eq_some_iff.mp hcut
          simp only [hlast, hcut, Prod.mk.injEq] at h
          obtain ⟨rfl, rfl⟩ := h
          simp only [String.toList_append, List.mem_append, not_or] at hslash
          refine ⟨by simp [tagText, String.append_assoc], ?_, name, ⟨hslash.1.1, .inl rfl⟩, hcolon⟩
          rintro _ ⟨rfl⟩
          exact hslash.2
      | none =>
          simp only [hlast, hcut, Prod.mk.injEq] at h
          obtain ⟨rfl, rfl⟩ := h
          exact ⟨by simp [tagText], by simp, rest, ⟨hslash, .inl rfl⟩,
            Text.splitFirst_eq_none_iff.mp hcut⟩

/-! ### Repositories -/

theorem hasEmptySegment_eq_false_iff {repository : String} :
    hasEmptySegment repository = false ↔ ∀ segment ∈ Text.pieces repository '/', segment ≠ "" := by
  simp [hasEmptySegment]

/-- **A repository is what is made of segments** that are not empty, if its last one has no colon
and no segment has an `@`. -/
theorem isPath_iff {repository : String} :
    IsPath repository ↔ hasEmptySegment repository = false ∧ '@' ∉ repository.toList ∧
      ∃ last, EndsIn repository last ∧ ':' ∉ last.toList := by
  rw [hasEmptySegment_eq_false_iff]
  constructor
  · rintro ⟨front, last, rfl, hsegments, hcolon⟩
    have hpieces : Text.pieces ("/".intercalate (front ++ [last])) '/' = front ++ [last] :=
      Text.pieces_intercalate (by simp) fun segment h => (hsegments segment h).2.1
    refine ⟨?_, ?_, last, ⟨(hsegments last (by simp)).2.1, ?_⟩, hcolon⟩
    · rw [hpieces]
      exact fun segment h => (hsegments segment h).1
    · rw [Text.mem_iff_exists_mem_pieces (c := '/') (by decide), hpieces]
      rintro ⟨segment, h, hat⟩
      exact (hsegments segment h).2.2 hat
    · by_cases hfront : front = []
      · exact .inl (by simp [hfront])
      · refine .inr ⟨"/".intercalate front, ?_⟩
        rw [String.intercalate_append_of_ne_nil hfront (by simp), String.intercalate_singleton]
  · rintro ⟨hsegments, hat, last, ⟨hslash, hends⟩, hcolon⟩
    have hpieces : ∃ front, Text.pieces repository '/' = front ++ [last] := by
      rcases hends with rfl | ⟨path, rfl⟩
      · exact ⟨[], Text.pieces_of_notMem hslash⟩
      · exact ⟨_, Text.pieces_around hslash⟩
    obtain ⟨front, hpieces⟩ := hpieces
    refine ⟨front, last, ?_, ?_, hcolon⟩
    · rw [← hpieces]
      exact (Text.intercalate_pieces repository '/').symm
    · intro segment h
      rw [← hpieces] at h
      refine ⟨hsegments segment h, Text.notMem_of_mem_pieces h, fun hmem => hat ?_⟩
      exact (Text.mem_iff_exists_mem_pieces (by decide)).mpr ⟨segment, h, hmem⟩

/-- A repository does not begin with a slash. -/
theorem IsPath.ne_slash_append {repository : String} (h : IsPath repository) (s more : String) :
    repository ++ s ≠ "/" ++ more := by
  obtain ⟨front, last, rfl, hsegments, -⟩ := h
  have hfirst : ∃ segment tail, "/".intercalate (front ++ [last]) = segment ++ tail ∧
      segment ∈ front ++ [last] := by
    cases front with
    | nil => exact ⟨last, "", by simp, by simp⟩
    | cons segment front =>
        refine ⟨segment, "/" ++ "/".intercalate (front ++ [last]), ?_, by simp⟩
        rw [List.cons_append, String.intercalate_cons_of_ne_nil (by simp), String.append_assoc]
  obtain ⟨segment, tail, htext, hmem⟩ := hfirst
  obtain ⟨hne, hslash, -⟩ := hsegments segment hmem
  intro heq
  rw [htext] at heq
  have hchars := congrArg String.toList heq
  cases hsegment : segment.toList with
  | nil => exact hne (String.toList_eq_nil_iff.mp hsegment)
  | cons d rest =>
      simp only [String.toList_append, hsegment, List.cons_append] at hchars
      have hd : d = '/' := (List.cons.inj hchars).1
      simp [hsegment, hd] at hslash

/-! ### The cut before the digest -/

/-- The text of a digest, if there is one. -/
def digestText : Option String → String
  | some digest => "@" ++ digest
  | none => ""

/-- **A digest is cut off** from what has no `@`. -/
theorem splitDigest_append {name : String} (h : '@' ∉ name.toList) (digest : Option String) :
    splitDigest (name ++ digestText digest) = (name, digest) := by
  unfold splitDigest
  cases digest with
  | none =>
      rw [digestText, String.append_empty, Text.splitFirst_eq_none_iff.mpr h]
  | some d =>
      have hcut : Text.splitFirst (name ++ digestText (some d)) '@' = some (name, d) :=
        Text.splitFirst_eq_some_iff.mpr ⟨String.append_assoc.symm, h⟩
      rw [hcut]

/-- What is cut off is a digest, or there is none. -/
theorem of_splitDigest {s name : String} {digest : Option String}
    (h : splitDigest s = (name, digest)) :
    s = name ++ digestText digest ∧ '@' ∉ name.toList := by
  unfold splitDigest at h
  cases hcut : Text.splitFirst s '@' with
  | none =>
      rw [hcut] at h
      cases h
      exact ⟨by simp [digestText], Text.splitFirst_eq_none_iff.mp hcut⟩
  | some parts =>
      rw [hcut] at h
      cases h
      obtain ⟨rfl, hat⟩ := Text.splitFirst_eq_some_iff.mp hcut
      exact ⟨by simp [digestText, String.append_assoc], hat⟩

/-! ### Reading is taking apart -/

/-- The parts that a reference is written from. -/
structure Parts where
  lead : Option String
  repository : String
  tag : Option String
  digest : Option String

namespace Parts

/-- The text of a registry, if there is one. -/
def leadText : Option String → String
  | some lead => lead ++ "/"
  | none => ""

/-- The text without the digest. -/
def name (p : Parts) : String := leadText p.lead ++ (p.repository ++ tagText p.tag)

/-- The text that the parts make. -/
def text (p : Parts) : String := p.name ++ digestText p.digest

/-- The reference that the parts make: the hub has one name, and is meant where no registry is. -/
def reference (p : Parts) : Reference :=
  ⟨Registry.normalize (p.lead.getD Registry.hub), p.repository, p.tag, p.digest⟩

/-- The parts can be told apart in the text. -/
structure IsValid (p : Parts) : Prop where
  lead : ∀ lead, p.lead = some lead → IsLead lead ∧ '@' ∉ lead.toList
  bare : p.lead = none → IsBare (p.repository ++ tagText p.tag)
  path : IsPath p.repository
  tag : ∀ tag, p.tag = some tag → IsTag tag
  digest : ∀ digest, p.digest = some digest → Digest.check digest = .ok ()

variable {p : Parts}

/-- The name of valid parts has no `@`. -/
theorem IsValid.notMem_name (h : p.IsValid) : '@' ∉ p.name.toList := by
  have hpath := (isPath_iff.mp h.path).2.1
  have htag : '@' ∉ (tagText p.tag).toList :=
    notMem_tagText (by decide) fun t ht => (h.tag t ht).2.2
  cases hlead : p.lead with
  | none => simp [name, leadText, hlead, hpath, htag]
  | some lead => simp [name, leadText, hlead, hpath, htag, (h.lead lead hlead).2]

/-- The registry of valid parts is cut off. -/
theorem IsValid.splitRegistry_name (h : p.IsValid) :
    splitRegistry p.name =
      some (p.lead.getD Registry.hub, p.repository ++ tagText p.tag) := by
  cases hlead : p.lead with
  | none =>
      rw [name, hlead, leadText, String.empty_append]
      exact splitRegistry_of_isBare (h.bare hlead)
  | some lead =>
      rw [name, hlead]
      exact splitRegistry_append (h.lead lead hlead).1 (h.path.ne_slash_append (tagText p.tag))

/-- The name of valid parts is read. -/
theorem IsValid.parseName_name (h : p.IsValid) (s : String) :
    parseName s p.name p.digest = .ok p.reference := by
  obtain ⟨hsegments, -, last, hends, hcolon⟩ := isPath_iff.mp h.path
  have htag : p.tag ≠ some "" := fun heq => (h.tag "" heq).1 rfl
  rw [parseName, h.splitRegistry_name]
  dsimp only
  rw [splitTag_append hends hcolon fun t ht => (h.tag t ht).2.1]
  simp only [hsegments, htag, Bool.false_eq_true, if_false]
  rfl

end Parts

/-- A name is read only if it is the name of valid parts. -/
theorem of_parseName {s name : String} {digest : Option String} {r : Reference}
    (h : parseName s name digest = .ok r) (hat : '@' ∉ name.toList)
    (hdigest : ∀ d, digest = some d → Digest.check d = .ok ()) :
    ∃ p : Parts, p.IsValid ∧ p.name = name ∧ p.digest = digest ∧ p.reference = r := by
  unfold parseName at h
  cases hcut : splitRegistry name with
  | none => simp [hcut] at h
  | some parts =>
      obtain ⟨registry, rest⟩ := parts
      rcases htagged : splitTag rest with ⟨repository, tag⟩
      simp only [hcut, htagged] at h
      split at h
      · cases h
      · rename_i hsegments
        split at h
        · cases h
        · rename_i htag
          cases h
          obtain ⟨rfl, hslash, hends⟩ := of_splitTag htagged
          have shapes (hrest : '@' ∉ (repository ++ tagText tag).toList) :
              IsPath repository ∧ ∀ t, tag = some t → IsTag t := by
            simp only [String.toList_append, List.mem_append, not_or] at hrest
            refine ⟨isPath_iff.mpr ⟨Bool.eq_false_iff.mpr hsegments, hrest.1, hends⟩, ?_⟩
            rintro t rfl
            refine ⟨fun ht => htag (by rw [ht]), hslash t rfl, fun hmem => hrest.2 ?_⟩
            simp [tagText, hmem]
          rcases of_splitRegistry hcut with ⟨hlead, rfl⟩ | ⟨rfl, rfl, hbare⟩
          · rw [String.toList_append, List.mem_append, not_or] at hat
            obtain ⟨hpath, htagged⟩ := shapes hat.2
            refine ⟨⟨some registry, repository, tag, digest⟩,
              ⟨?_, by simp, hpath, htagged, hdigest⟩, rfl, rfl, rfl⟩
            rintro _ ⟨rfl⟩
            refine ⟨hlead, fun hmem => hat.1 ?_⟩
            simp [hmem]
          · obtain ⟨hpath, htagged⟩ := shapes hat
            exact ⟨⟨none, repository, tag, digest⟩,
              ⟨by simp, fun _ => hbare, hpath, htagged, hdigest⟩,
              by simp [Parts.name, Parts.leadText], rfl, rfl⟩

/-- Valid parts make some text. -/
theorem Parts.IsValid.text_ne_empty {p : Parts} (h : p.IsValid) : p.text ≠ "" := by
  intro htext
  have hrepository : p.repository = "" := by
    simp only [text, name, String.append_eq_empty_iff] at htext
    exact htext.1.2.1
  have hsegments := (isPath_iff.mp h.path).1
  rw [hrepository] at hsegments
  exact absurd hsegments (by decide)

/-- **A reference is read from exactly the texts of its valid parts.** -/
theorem parse_eq_ok_iff {s : String} {r : Reference} :
    parse s = .ok r ↔ ∃ p : Parts, p.IsValid ∧ p.text = s ∧ p.reference = r := by
  constructor
  · intro h
    unfold parse at h
    split at h
    · cases h
    · rcases hcut : splitDigest s with ⟨name, digest⟩
      obtain ⟨hs, hat⟩ := of_splitDigest hcut
      have hname : parseName s name digest = .ok r ∧
          ∀ d, digest = some d → Digest.check d = .ok () := by
        cases digest with
        | none =>
            rw [hcut] at h
            exact ⟨h, by simp⟩
        | some d =>
            rw [hcut] at h
            dsimp only at h
            cases hcheck : Digest.check d with
            | error e => simp [hcheck] at h
            | ok _ =>
                rw [hcheck] at h
                exact ⟨h, by rintro _ ⟨rfl⟩; exact hcheck⟩
      obtain ⟨p, hp, rfl, rfl, hr⟩ := of_parseName hname.1 hat hname.2
      exact ⟨p, hp, hs.symm, hr⟩
  · rintro ⟨p, hp, rfl, rfl⟩
    have hname := hp.parseName_name p.text
    have hcut : splitDigest p.text = (p.name, p.digest) :=
      splitDigest_append hp.notMem_name p.digest
    rw [parse, if_neg hp.text_ne_empty, hcut]
    cases hdigest : p.digest with
    | none =>
        rw [hdigest] at hname
        exact hname
    | some d =>
        rw [hdigest] at hname
        dsimp only
        rw [hp.digest d hdigest]
        exact hname

end Reference

end DockerClient
