import DockerClient.Config.Auth
import DockerClient.Proofs.Base64Texts
import DockerClient.Proofs.ByteOrder
import DockerClient.Proofs.Cutting

/-
**Encoded pairs of a user and a password.**

A pair is encoded as the padded base64 of the user, a colon and the password.  Three things are read
back one after the other: the base64, the UTF-8 of its bytes, and the cut at the first colon.  Each
is an inverse, so a pair is read from exactly one text, but for white space around it.

* `Text.ofAscii`, `Text.encode_ofAscii` — ASCII bytes as a text;
* `Text.trim_around` — what is left of a text with white space around it;
* `Auth.padded` — the text of a pair; `Auth.not_blank_of_mem_padded` — it has no white space;
* `Auth.decode_eq_ok_iff` — **the pair that is read** from a text, `Auth.exists_fault_of_decode` —
  and what else can happen;
* `Auth.decode_inverts_encode` — **reading pairs inverts encoding them**.
-/

set_option relaxedAutoImplicit false
set_option autoImplicit false

namespace DockerClient

/-! ### Texts -/

namespace Text

/-- The text of ASCII bytes. -/
def ofAscii (bytes : List UInt8) : String := String.ofList (bytes.map fun b => Char.ofNat b.toNat)

theorem encode_ofAscii {bytes : List UInt8} (h : ∀ b ∈ bytes, b.toNat < 128) :
    encode (ofAscii bytes) = bytes := by
  rw [encode_eq_flatMap, ofAscii, String.toList_ofList]
  induction bytes with
  | nil => rfl
  | cons b bytes ih =>
      have hb : b.toNat < 128 := h b List.mem_cons_self
      have hvalid : b.toNat.isValidChar := .inl (by omega)
      have hval : (Char.ofNat b.toNat).val.toNat = b.toNat := by
        rw [Char.ofNat, dif_pos hvalid]
        rfl
      have hshort : b.toNat ≤ 0x7f := by omega
      have hone : String.utf8EncodeChar (Char.ofNat b.toNat) = [b] := by
        simp only [String.utf8EncodeChar, hval, if_pos hshort, UInt8.ofNat_toNat]
      rw [List.map_cons, List.flatMap_cons, hone, ih fun x hx => h x (List.mem_cons_of_mem _ hx)]
      rfl

/-- White space is dropped up to a text that has none. -/
theorem dropWhile_blank {lead s rest : List Char} (hlead : ∀ c ∈ lead, isBlank c = true)
    (hs : ∀ c ∈ s, isBlank c = false) (hne : s ≠ []) :
    (lead ++ (s ++ rest)).dropWhile isBlank = s ++ rest := by
  rw [List.dropWhile_append_of_pos hlead]
  cases s with
  | nil => exact absurd rfl hne
  | cons c s => exact List.dropWhile_cons_of_neg (by simp [hs c List.mem_cons_self])

/-- **White space around a text** that has none is trimmed. -/
theorem trim_around {lead s trail : String} (hlead : ∀ c ∈ lead.toList, isBlank c = true)
    (hs : ∀ c ∈ s.toList, isBlank c = false) (htrail : ∀ c ∈ trail.toList, isBlank c = true)
    (hne : s ≠ "") : trim (lead ++ s ++ trail) = s := by
  have hchars : s.toList ≠ [] := fun h => hne (String.toList_eq_nil_iff.mp h)
  have hfront : (lead.toList ++ (s.toList ++ trail.toList)).dropWhile isBlank =
      s.toList ++ trail.toList := dropWhile_blank hlead hs hchars
  have hback : (trail.toList.reverse ++ (s.toList.reverse ++ [])).dropWhile isBlank =
      s.toList.reverse ++ [] := by
    refine dropWhile_blank ?_ ?_ (mt List.reverse_eq_nil_iff.mp hchars)
    · simpa using htrail
    · simpa using hs
  rw [trim, trimChars, String.toList_append, String.toList_append, List.append_assoc, hfront,
    List.reverse_append, ← List.append_nil s.toList.reverse, hback, List.append_nil,
    List.reverse_reverse, String.ofList_toList]

end Text

namespace Auth

/-- The text of a pair. -/
def padded (user password : String) : String := Text.ofAscii (encode user password)

variable {s user password : String}

/-- The bytes of a padded text are ASCII, and none is white space. -/
theorem ascii_of_mem_encode {b : UInt8} (h : b ∈ encode user password) :
    b.toNat < 128 ∧ Text.isBlank (Char.ofNat b.toNat) = false := by
  have hsymbol : ∀ n < 64, (Base64.symbol n).toNat < 128 ∧
      Text.isBlank (Char.ofNat (Base64.symbol n).toNat) = false := by decide
  obtain ⟨ns, pads, hns, heq⟩ :=
    Base64.exists_encode_eq (Text.encode (user ++ ":" ++ password))
  rw [encode, heq] at h
  rcases List.mem_append.mp h with h | h
  · obtain ⟨n, hn, rfl⟩ := List.mem_map.mp h
    exact hsymbol n (hns n hn)
  · rw [(List.mem_replicate.mp h).2]
    decide

theorem encode_padded (user password : String) :
    Text.encode (padded user password) = encode user password :=
  Text.encode_ofAscii fun _ hb => (ascii_of_mem_encode hb).1

/-- The text of a pair has no white space. -/
theorem not_blank_of_mem_padded {c : Char} (h : c ∈ (padded user password).toList) :
    Text.isBlank c = false := by
  rw [padded, Text.ofAscii, String.toList_ofList] at h
  obtain ⟨b, hb, rfl⟩ := List.mem_map.mp h
  exact (ascii_of_mem_encode hb).2

theorem padded_ne_empty (user password : String) : padded user password ≠ "" := by
  intro h
  have hbytes : encode user password = [] := by
    rw [← encode_padded, h]
    rfl
  have htext : user ++ ":" ++ password = "" :=
    Text.encode_injective (Base64.encode_eq_nil_iff.mp hbytes)
  have hcolon : ':' ∈ (user ++ ":" ++ password).toList := by simp
  rw [htext] at hcolon
  exact absurd hcolon List.not_mem_nil

theorem trim_padded {lead trail : String} (hlead : ∀ c ∈ lead.toList, Text.isBlank c = true)
    (htrail : ∀ c ∈ trail.toList, Text.isBlank c = true) :
    Text.trim (lead ++ padded user password ++ trail) = padded user password :=
  Text.trim_around hlead (fun _ => not_blank_of_mem_padded) htrail (padded_ne_empty user password)

/-- **The pair that is read from a text** is the one whose encoding the text is, but for white space
around it. -/
theorem decode_eq_ok_iff : decode s = .ok (user, password) ↔
    ':' ∉ user.toList ∧ Text.encode (Text.trim s) = encode user password := by
  have hcolon : (":" : String) = String.singleton ':' := rfl
  unfold decode encode
  rw [hcolon]
  constructor
  · intro h
    split at h
    · cases h
    · rename_i bytes hbytes
      split at h
      · cases h
      · rename_i text htext
        split at h
        · rename_i pair hcut
          cases h
          obtain ⟨rfl, huser⟩ := Text.splitFirst_eq_some_iff.mp hcut
          rw [Text.decode?_eq_some_iff.mp htext]
          exact ⟨huser, Base64.decode_eq_ok_iff.mp hbytes⟩
        · cases h
  · rintro ⟨huser, hs⟩
    have hcut : Text.splitFirst (user ++ String.singleton ':' ++ password) ':' =
        some (user, password) := Text.splitFirst_eq_some_iff.mpr ⟨rfl, huser⟩
    rw [Base64.decode_eq_ok_iff.mpr hs]
    simp only [Text.decode?_encode, hcut]

/-- A text that no pair is read from is refused as an argument. -/
theorem exists_fault_of_decode {e : Error} (h : decode s = .error e) :
    ∃ fault, e = .invalidArgument fault := by
  unfold decode at h
  split at h
  · cases h
    exact ⟨_, rfl⟩
  · split at h
    · cases h
      exact ⟨_, rfl⟩
    · split at h
      · cases h
      · cases h
        exact ⟨_, rfl⟩

/-- **Reading pairs inverts encoding them.**  A pair is read from exactly the texts that are, but for
white space around them, the padded base64 of a user without a colon, a colon and a password; all
other texts are refused as arguments.  So every password comes back, whatever white space is put
around its text, and a pair is read from one text only, but for white space. -/
theorem decode_inverts_encode :
    (∀ s user password, decode s = .ok (user, password) ↔ ':' ∉ user.toList ∧
      Text.encode (Text.trim s) = Base64.encode (Text.encode (user ++ ":" ++ password))) ∧
    (∀ s, (¬∃ user password : String, ':' ∉ user.toList ∧
        Text.encode (Text.trim s) = Base64.encode (Text.encode (user ++ ":" ++ password))) →
      ∃ fault, decode s = .error (.invalidArgument fault)) ∧
    (∀ user password, ':' ∉ user.toList → ∃ text : String,
      Text.encode text = Base64.encode (Text.encode (user ++ ":" ++ password)) ∧
      ∀ lead trail : String, (∀ c ∈ lead.toList, Text.isBlank c = true) →
        (∀ c ∈ trail.toList, Text.isBlank c = true) →
        decode (lead ++ text ++ trail) = .ok (user, password)) ∧
    (∀ s t pair, decode s = .ok pair → decode t = .ok pair → Text.trim s = Text.trim t) := by
  refine ⟨fun s user password => decode_eq_ok_iff, ?_, ?_, ?_⟩
  · intro s hnone
    cases h : decode s with
    | ok pair => exact absurd ⟨pair.1, pair.2, decode_eq_ok_iff.mp h⟩ hnone
    | error e =>
        obtain ⟨fault, rfl⟩ := exists_fault_of_decode h
        exact ⟨fault, rfl⟩
  · intro user password huser
    refine ⟨padded user password, encode_padded user password, ?_⟩
    intro lead trail hlead htrail
    refine decode_eq_ok_iff.mpr ⟨huser, ?_⟩
    rw [trim_padded hlead htrail, encode_padded]
  · intro s t pair hs ht
    have hs := (decode_eq_ok_iff.mp hs).2
    have ht := (decode_eq_ok_iff.mp ht).2
    exact Text.encode_injective (hs.trans ht.symm)

/-- A password with a colon and a letter that is not ASCII, in a text with white space around it. -/
theorem decode_inverts_encode_blank :
    decode "\t dTo6w6k=\n" = .ok ("u", ":é") ∧
      Text.trim "\t dTo6w6k=\n" = Text.trim "dTo6w6k=" := by
  have hblank : decode "\t dTo6w6k=\n" = .ok ("u", ":é") :=
    (decode_inverts_encode.1 _ _ _).mpr ⟨by decide, by rfl⟩
  have hbare : decode "dTo6w6k=" = .ok ("u", ":é") :=
    (decode_inverts_encode.1 _ _ _).mpr ⟨by decide, by rfl⟩
  exact ⟨hblank, decode_inverts_encode.2.2.2 _ _ _ hblank hbare⟩

end Auth

end DockerClient
