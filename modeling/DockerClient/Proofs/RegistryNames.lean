import DockerClient.Image.Registry
import DockerClient.Proofs.Cutting

/-
**Names of registries.**

* `Registry.splitScheme_append`, `Registry.splitScheme_of_not` — a text has the scheme that it is
  written with, or none;
* `Registry.splitScheme_of_notMem` — a text without a slash has no scheme;
* `Registry.authKey_of_notMem` — the key of a text without a slash is its normal form;
* `Registry.authKey_authKey` — **the key of a key is the key**.
-/

set_option relaxedAutoImplicit false
set_option autoImplicit false

namespace DockerClient.Registry

theorem mem_schemes_iff {scheme : String} :
    scheme ∈ schemes ↔ scheme = "http://" ∨ scheme = "https://" := by
  simp [schemes]

theorem ne_empty_of_mem_schemes {scheme : String} (h : scheme ∈ schemes) : scheme ≠ "" := by
  rcases mem_schemes_iff.mp h with rfl | rfl <;> decide

/-- What a text is written with is its scheme. -/
theorem splitScheme_append {scheme : String} (h : scheme ∈ schemes) (rest : String) :
    splitScheme (scheme ++ rest) = (scheme, rest) := by
  rcases mem_schemes_iff.mp h with rfl | rfl
  · rw [splitScheme, Text.after?_append]
  · have hhttp : Text.after? "http://" ("https://" ++ rest) = none := by
      refine Text.after?_eq_none_iff.mpr ?_
      intro other heq
      have := congrArg String.toList heq
      simp at this
    rw [splitScheme, hhttp, Text.after?_append]

/-- A text that is written with no scheme has none. -/
theorem splitScheme_of_not {s : String} (h : ∀ scheme ∈ schemes, ∀ rest, s ≠ scheme ++ rest) :
    splitScheme s = ("", s) := by
  have hhttp : Text.after? "http://" s = none :=
    Text.after?_eq_none_iff.mpr (h _ (by decide))
  have hhttps : Text.after? "https://" s = none :=
    Text.after?_eq_none_iff.mpr (h _ (by decide))
  rw [splitScheme, hhttp, hhttps]

/-- A scheme ends with two slashes, after a text that looks like a registry. -/
theorem exists_stem {scheme : String} (h : scheme ∈ schemes) :
    ∃ stem, scheme = stem ++ "/" ++ "/" ∧ '/' ∉ stem.toList ∧ looksLikeRegistry stem = true := by
  rcases mem_schemes_iff.mp h with rfl | rfl
  · exact ⟨"http:", by decide, by decide, by decide⟩
  · exact ⟨"https:", by decide, by decide, by decide⟩

/-- A text without a slash has no scheme. -/
theorem splitScheme_of_notMem {s : String} (h : '/' ∉ s.toList) : splitScheme s = ("", s) := by
  refine splitScheme_of_not ?_
  intro scheme hscheme rest hs
  obtain ⟨stem, rfl, -, -⟩ := exists_stem hscheme
  simp [hs] at h

/-- A registry without a slash is its own host. -/
theorem host_of_notMem {s : String} (h : '/' ∉ s.toList) : host s = s := by
  rw [host, splitScheme_of_notMem h]

theorem notMem_normalize {s : String} (h : '/' ∉ s.toList) : '/' ∉ (normalize s).toList := by
  unfold normalize
  split
  · decide
  · exact h

/-- The key of a text without a slash is its normal form. -/
theorem authKey_of_notMem {s : String} (h : '/' ∉ s.toList) : authKey s = normalize s := by
  rw [authKey, host_of_notMem h, Text.upTo_of_notMem h]

theorem notMem_authKey (s : String) : '/' ∉ (authKey s).toList :=
  notMem_normalize (Text.notMem_upTo _ _)

/-- **The key of a key is the key.** -/
@[simp] theorem authKey_authKey (s : String) : authKey (authKey s) = authKey s := by
  rw [authKey_of_notMem (notMem_authKey s), authKey, normalize_normalize]

end DockerClient.Registry
