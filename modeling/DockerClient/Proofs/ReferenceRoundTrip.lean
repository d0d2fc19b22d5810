import DockerClient.Proofs.ReferenceParts

/-
**Reading and writing image references** undo each other.

* `Reference.IsCanonical` — the references that reading gives: the registry under its one name, and
  parts that can be told apart in the text;
* `Reference.IsCanonical.parts`, `Reference.text_parts` — a reference as the parts it is written
  from;
* `Reference.isCanonical_of_parse`, `Reference.parse_format_of_isCanonical` — what is read is
  canonical, and what is canonical is read back as it was written;
* `Reference.format_reference` — what writing makes of the parts of a text;
* `Reference.parse_format_inverse` — **the round trip**: writing what was read changes nothing but
  the name of the hub.
-/

set_option relaxedAutoImplicit false
set_option autoImplicit false

namespace DockerClient

namespace Reference

/-! ### Canonical references -/

/-- A reference under the one name of its registry, whose parts can be told apart in the text. -/
structure IsCanonical (r : Reference) : Prop where
  normal : Registry.normalize r.registry = r.registry
  registry_notMem : '@' ∉ r.registry.toList
  registry : IsLead r.registry
  repository : IsPath r.repository
  tag : ∀ tag, r.tag = some tag → IsTag tag
  digest : ∀ digest, r.digest = some digest → Digest.check digest = .ok ()

/-- The parts that a reference is written from. -/
def parts (r : Reference) : Parts := ⟨some r.registry, r.repository, r.tag, r.digest⟩

theorem text_parts (r : Reference) : r.parts.text = r.format := by
  obtain ⟨registry, repository, tag, digest⟩ := r
  cases tag <;> cases digest <;>
    simp [Parts.text, Parts.name, Parts.leadText, tagText, digestText, parts, format,
      String.append_assoc]

theorem isLead_hub : IsLead Registry.hub := .inr ⟨by decide, .inl (by decide)⟩

theorem at_notMem_hub : '@' ∉ Registry.hub.toList := by decide

namespace IsCanonical

variable {r : Reference}

theorem parts (h : r.IsCanonical) : r.parts.IsValid where
  lead := by
    rintro _ ⟨rfl⟩
    exact ⟨h.registry, h.registry_notMem⟩
  bare := by simp [Reference.parts]
  path := h.repository
  tag := h.tag
  digest := h.digest

theorem reference_parts (h : r.IsCanonical) : r.parts.reference = r := by
  rw [Parts.reference, Reference.parts, Option.getD_some, h.normal]

end IsCanonical

/-- The reference that valid parts make is canonical. -/
theorem Parts.IsValid.isCanonical {p : Parts} (h : p.IsValid) : p.reference.IsCanonical := by
  have hlead : IsLead (p.lead.getD Registry.hub) ∧ '@' ∉ (p.lead.getD Registry.hub).toList := by
    cases hlead : p.lead with
    | none => exact ⟨isLead_hub, at_notMem_hub⟩
    | some lead => exact h.lead lead hlead
  have hregistry : IsLead p.reference.registry ∧ '@' ∉ p.reference.registry.toList := by
    rw [reference, Registry.normalize]
    split
    · exact ⟨isLead_hub, at_notMem_hub⟩
    · exact hlead
  exact ⟨Registry.normalize_normalize _, hregistry.2, hregistry.1, h.path, h.tag, h.digest⟩

/-- **What is read is canonical.** -/
theorem isCanonical_of_parse {s : String} {r : Reference} (h : parse s = .ok r) :
    r.IsCanonical := by
  obtain ⟨p, hp, -, rfl⟩ := parse_eq_ok_iff.mp h
  exact hp.isCanonical

/-- **A canonical reference is read back** as it was written. -/
theorem parse_format_of_isCanonical {r : Reference} (h : r.IsCanonical) :
    parse r.format = .ok r :=
  parse_eq_ok_iff.mpr ⟨r.parts, h.parts, text_parts r, h.reference_parts⟩

/-! ### What writing changes -/

theorem format_reference (p : Parts) :
    p.reference.format =
      Registry.normalize (p.lead.getD Registry.hub) ++ "/" ++
        (p.repository ++ tagText p.tag ++ digestText p.digest) := by
  rw [← text_parts]
  simp only [Parts.text, Parts.name, Parts.leadText, Reference.parts, Parts.reference,
    String.append_assoc]

/-- A registry on the hub is written with or without a scheme. -/
theorem exists_scheme_of_host {registry : String} (h : Registry.host registry ∈ Registry.hubNames) :
    ∃ scheme ∈ "" :: Registry.schemes, ∃ name ∈ Registry.hubNames, registry = scheme ++ name := by
  by_cases hscheme : ∃ scheme ∈ Registry.schemes, ∃ more, registry = scheme ++ more
  · obtain ⟨scheme, hscheme, more, rfl⟩ := hscheme
    rw [Registry.host, Registry.splitScheme_append hscheme] at h
    exact ⟨scheme, List.mem_cons_of_mem _ hscheme, more, h, rfl⟩
  · rw [Registry.host, Registry.splitScheme_of_not fun scheme hmem more heq =>
      hscheme ⟨scheme, hmem, more, heq⟩] at h
    exact ⟨"", List.mem_cons_self, registry, h, by simp⟩

/-- **The round trip of references.**  What is read is canonical; what is canonical is read back as
it was written; and writing what was read gives the text back, or the text after the name of the
hub, or the text with a name of the hub, with or without a scheme, replaced by its one name. -/
theorem parse_format_inverse :
    (∀ s r, parse s = .ok r → r.IsCanonical) ∧
    (∀ r : Reference, r.IsCanonical → parse r.format = .ok r) ∧
    (∀ s r, parse s = .ok r →
      r.format = s ∨ r.format = Registry.hub ++ "/" ++ s ∨
        ∃ scheme ∈ "" :: Registry.schemes, ∃ name ∈ Registry.hubNames, ∃ rest,
          s = scheme ++ name ++ "/" ++ rest ∧ r.format = Registry.hub ++ "/" ++ rest) := by
  refine ⟨fun _ _ => isCanonical_of_parse, fun _ => parse_format_of_isCanonical, ?_⟩
  intro s r h
  obtain ⟨p, -, rfl, rfl⟩ := parse_eq_ok_iff.mp h
  rw [format_reference, Parts.text, Parts.name]
  cases p.lead with
  | none =>
      right; left
      rw [Option.getD_none, Registry.normalize_hub, Parts.leadText, String.empty_append]
  | some lead =>
      rw [Option.getD_some, Parts.leadText, Registry.normalize]
      split
      · rename_i hhost
        obtain ⟨scheme, hscheme, name, hname, rfl⟩ := exists_scheme_of_host hhost
        exact .inr (.inr ⟨scheme, hscheme, name, hname, _, String.append_assoc, rfl⟩)
      · left
        simp only [String.append_assoc]

/-- A name of the hub with a scheme, and colons in an inner segment and in the tag. -/
theorem parse_format_inverse_hub_name :
    ∃ r : Reference, r = ⟨"index.docker.io", "a:b/c", some "1:2", none⟩ ∧
      parse "https://docker.io/a:b/c:1:2" = .ok r ∧ r.IsCanonical ∧ parse r.format = .ok r ∧
      ∃ scheme ∈ "" :: Registry.schemes, ∃ name ∈ Registry.hubNames, ∃ rest,
        "https://docker.io/a:b/c:1:2" = scheme ++ name ++ "/" ++ rest ∧
          r.format = Registry.hub ++ "/" ++ rest := by
  have hread : parse "https://docker.io/a:b/c:1:2" =
      .ok ⟨"index.docker.io", "a:b/c", some "1:2", none⟩ := by rfl
  have hcanonical := parse_format_inverse.1 _ _ hread
  have hchange := parse_format_inverse.2.2 _ _ hread
  exact ⟨_, rfl, hread, hcanonical, parse_format_inverse.2.1 _ hcanonical,
    (hchange.resolve_left (by decide)).resolve_left (by decide)⟩

end Reference

end DockerClient
