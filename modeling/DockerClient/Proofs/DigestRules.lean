import DockerClient.Hash.Sha256
import Mathlib.Data.List.Forall2

/-
**The digest, by its rules.**

The digest of a message is worked out with shifts, reversed lists and folds.  The rules behind it
are stated here one by one: how a message is padded, how a block spreads to a schedule, what one
round does to the eight words, and how blocks are taken in one after the other.  They leave no
choice, and the digest is what they say.

* `Sha256.rotate_eq` — **a rotation moves every bit**, by the shifts of the model;
* `Sha256.words_flatMap`, `Sha256.flatMap_words` — bytes and words are the same data;
* `Sha256.constants_of_primes` — the constants come from the roots of prime numbers;
* `Sha256.IsPadded`, `Sha256.IsSchedule`, `Sha256.IsRound`, `Sha256.Compresses`, `Sha256.Absorbs` —
  the rules, each with a lemma that it leaves no choice;
* `Sha256.isDigest_iff` — **the digest is what the rules say**, for messages of every length.
-/

set_option relaxedAutoImplicit false
set_option autoImplicit false

namespace DockerClient.Sha256

/-! ### Bits, bytes and words -/

/-- A word whose bits are moved to the right, the lowest ones to the top. -/
def rotateRight (n : Nat) (x : UInt32) : UInt32 := ⟨x.toBitVec.rotateRight n⟩

/-- **A rotation moves every bit**, whatever shifts it is made of. -/
theorem rotate_eq (x : UInt32) {n : UInt32} (hpos : 0 < n.toNat) (hlt : n.toNat < 32) :
    rotate x n = rotateRight n.toNat x := by
  have hbits : (rotate x n).toBitVec =
      x.toBitVec >>> n.toNat ||| x.toBitVec <<< ((4294967296 - n.toNat) % 32) := by
    simp [rotate, Nat.mod_eq_of_lt hlt]
  have hleft : (4294967296 - n.toNat) % 32 = 32 - n.toNat := by omega
  apply UInt32.eq_of_toBitVec_eq
  rw [hbits, hleft, rotateRight, BitVec.rotateRight_def, Nat.mod_eq_of_lt hlt]

/-- The four bytes of a word, the highest first. -/
def bytesOfWord (w : UInt32) : List UInt8 :=
  [(w >>> 24).toUInt8, (w >>> 16).toUInt8, (w >>> 8).toUInt8, w.toUInt8]

theorem bytesOfWord_word (a b c d : UInt8) : bytesOfWord (word a b c d) = [a, b, c, d] := by
  simp only [bytesOfWord, word, List.cons.injEq, and_true]
  refine ⟨?_, ?_, ?_, ?_⟩ <;> apply UInt8.eq_of_toBitVec_eq <;> ext i hi <;> simp <;> grind

theorem word_bytesOfWord (w : UInt32) :
    word (w >>> 24).toUInt8 (w >>> 16).toUInt8 (w >>> 8).toUInt8 w.toUInt8 = w := by
  apply UInt32.eq_of_toBitVec_eq
  ext i hi
  simp [word, -UInt32.toUInt32_toUInt8]
  grind

/-- The words of the bytes of words are these words. -/
theorem words_flatMap (ws : List UInt32) : words (ws.flatMap bytesOfWord) = ws := by
  induction ws with
  | nil => rfl
  | cons w ws ih =>
      rw [List.flatMap_cons, bytesOfWord]
      simp only [List.cons_append, List.nil_append, words, word_bytesOfWord, ih]

/-- The bytes of the words of bytes are these bytes, if they are whole words. -/
theorem flatMap_words : ∀ {bytes : List UInt8}, bytes.length % 4 = 0 →
    (words bytes).flatMap bytesOfWord = bytes
  | [], _ => rfl
  | a :: b :: c :: d :: rest, h => by
      have hrest : rest.length % 4 = 0 := by
        simp only [List.length_cons] at h
        omega
      rw [words, List.flatMap_cons, bytesOfWord_word, flatMap_words hrest]
      rfl

theorem length_words : ∀ {bytes : List UInt8}, bytes.length % 4 = 0 →
    4 * (words bytes).length = bytes.length
  | [], _ => rfl
  | a :: b :: c :: d :: rest, h => by
      have hrest : rest.length % 4 = 0 := by
        simp only [List.length_cons] at h
        omega
      have := length_words hrest
      simp only [words, List.length_cons]
      omega

/-! ### Constants -/

/-- The first prime numbers: numbers below `18 * 18` without a divisor below 18. -/
def primes : List Nat :=
  (List.range 312).filter fun n => 2 ≤ n ∧ ∀ d ∈ List.range 18, 2 ≤ d → d < n → ¬d ∣ n

/-- The 32 bits of a root behind the point. -/
def IsRootFraction (degree n : Nat) (w : UInt32) : Prop :=
  ∃ whole < n, Nat.pow (whole * Nat.pow 2 32 + w.toNat) degree ≤ n * Nat.pow 2 (32 * degree) ∧
    n * Nat.pow 2 (32 * degree) < Nat.pow (whole * Nat.pow 2 32 + w.toNat + 1) degree

instance (degree n : Nat) (w : UInt32) : Decidable (IsRootFraction degree n w) :=
  inferInstanceAs (Decidable (∃ whole < n, _ ∧ _))

/-- **The constants are roots of prime numbers**: cube roots of the first 64 for the rounds, square
roots of the first eight to begin with. -/
theorem constants_of_primes :
    List.Forall₂ (IsRootFraction 3) primes roundConstants ∧
      List.Forall₂ (IsRootFraction 2) (primes.take 8) initial.toList := by
  constructor <;> decide +kernel

/-! ### Padding -/

/-- **A padded message**: the message, a one bit, as few zeros as fill a whole number of blocks, and
the length of the message in bits, a number of 64 bits with its highest byte first. -/
inductive IsPadded (message : List UInt8) : List UInt8 → Prop
  | of {zeros : Nat} {field : List UInt8} (hlength : field.length = 8)
      (hfield : ∀ i < 8, (field.getD i 0).toNat =
        message.length * 8 / Nat.pow 2 (8 * (7 - i)) % 256)
      (hwhole : (message.length + 1 + zeros + 8) % 64 = 0)
      (hleast : ∀ fewer < zeros, (message.length + 1 + fewer + 8) % 64 ≠ 0) :
      IsPadded message (message ++ 0x80 :: List.replicate zeros 0 ++ field)

theorem isPadded_padded (message : List UInt8) : IsPadded message (padded message) := by
  refine .of (by simp) (fun i hi => ?_) (by omega) (fun fewer hfewer => by omega)
  simp [List.getD_eq_getElem?_getD, hi]

theorem IsPadded.unique {message bytes bytes' : List UInt8} (h : IsPadded message bytes)
    (h' : IsPadded message bytes') : bytes = bytes' := by
  obtain ⟨hlength, hfield, hwhole, hleast⟩ := h
  obtain ⟨hlength', hfield', hwhole', hleast'⟩ := h'
  rename_i zeros field zeros' field'
  -- both are the least number that fills the blocks
  have hzeros : zeros = zeros' := by
    rcases Nat.lt_trichotomy zeros zeros' with hlt | heq | hgt
    · exact absurd hwhole (hleast' zeros hlt)
    · exact heq
    · exact absurd hwhole' (hleast zeros' hgt)
  have hsame : field = field' := by
    refine List.ext_getElem (hlength.trans hlength'.symm) fun i hi hi' => ?_
    have hbyte := (hfield i (by omega)).trans (hfield' i (by omega)).symm
    rw [List.getD_eq_getElem?_getD, List.getD_eq_getElem?_getD, List.getElem?_eq_getElem hi,
      List.getElem?_eq_getElem hi'] at hbyte
    exact UInt8.toNat_inj.mp hbyte
  rw [hzeros, hsame]

theorem IsPadded.length_mod {message bytes : List UInt8} (h : IsPadded message bytes) :
    bytes.length % 64 = 0 := by
  obtain ⟨hlength, -, hwhole, -⟩ := h
  simp only [List.length_append, List.length_cons, List.length_replicate, hlength]
  omega

/-! ### Blocks -/

theorem length_of_mem_blocks {n : Nat} {ws : List UInt32} (h : ws.length = 16 * n)
    {block : List UInt32} (hblock : block ∈ blocks n ws) : block.length = 16 := by
  induction n generalizing ws with
  | zero => cases hblock
  | succ n ih =>
      rcases List.mem_cons.mp hblock with rfl | hblock
      · rw [List.length_take]
        omega
      · exact ih (by rw [List.length_drop]; omega) hblock

theorem flatten_blocks {n : Nat} {ws : List UInt32} (h : ws.length = 16 * n) :
    (blocks n ws).flatten = ws := by
  induction n generalizing ws with
  | zero =>
      rw [List.eq_nil_of_length_eq_zero h]
      rfl
  | succ n ih =>
      rw [blocks, List.flatten_cons, ih (by rw [List.length_drop]; omega), List.take_append_drop]

/-- Blocks of one length are known from all their words. -/
theorem eq_of_flatten_eq {bs cs : List (List UInt32)} (hbs : ∀ b ∈ bs, b.length = 16)
    (hcs : ∀ c ∈ cs, c.length = 16) (h : bs.flatten = cs.flatten) : bs = cs := by
  have hlengths {l : List (List UInt32)} (hl : ∀ b ∈ l, b.length = 16) :
      l.map List.length = List.replicate l.length 16 :=
    List.eq_replicate_iff.mpr ⟨List.length_map _, by simpa using hl⟩
  have hcount : bs.length = cs.length := by
    have hlength := congrArg List.length h
    rw [List.length_flatten, List.length_flatten, hlengths hbs, hlengths hcs] at hlength
    simp only [List.sum_replicate_nat] at hlength
    omega
  refine List.eq_iff_flatten_eq.mpr ⟨h, ?_⟩
  rw [hlengths hbs, hlengths hcs, hcount]

/-! ### One block -/

/-- What an earlier word adds to a schedule. -/
def spreadFar (x : UInt32) : UInt32 := rotateRight 7 x ^^^ rotateRight 18 x ^^^ (x >>> 3)

/-- What a late word adds to a schedule. -/
def spreadNear (x : UInt32) : UInt32 := rotateRight 17 x ^^^ rotateRight 19 x ^^^ (x >>> 10)

/-- The word that goes on from earlier ones. -/
def nextWord (w : List UInt32) (t : Nat) : UInt32 :=
  spreadNear (w.getD (t - 2) 0) + w.getD (t - 7) 0 + spreadFar (w.getD (t - 15) 0)
    + w.getD (t - 16) 0

/-- **The schedule of a block**: its sixteen words, and 48 more, each of which comes from four
earlier ones. -/
structure IsSchedule (block w : List UInt32) : Prop where
  length : w.length = 64
  first : w.take 16 = block
  next : ∀ t, 16 ≤ t → t < 64 → w.getD t 0 = nextWord w t

/-- The bits of one word where a word has ones, and those of another one elsewhere. -/
def choose (x y z : UInt32) : UInt32 := (x &&& y) ^^^ (~~~x &&& z)

/-- The bits that two of three words have. -/
def majority (x y z : UInt32) : UInt32 := (x &&& y) ^^^ (x &&& z) ^^^ (y &&& z)

/-- One of the eight words. -/
def wordAt (s : State) (i : Nat) : UInt32 := s.toList.getD i 0

theorem wordAt_eq (s : State) {i : Nat} (hi : i < 8) : wordAt s i = s[i] := by
  simp [wordAt, hi]

/-- What the last four words and the schedule add in a round. -/
def added (s : State) (k w : UInt32) : UInt32 :=
  wordAt s 7
    + (rotateRight 6 (wordAt s 4) ^^^ rotateRight 11 (wordAt s 4) ^^^ rotateRight 25 (wordAt s 4))
    + choose (wordAt s 4) (wordAt s 5) (wordAt s 6) + k + w

/-- What the first three words add in a round. -/
def mixed (s : State) : UInt32 :=
  (rotateRight 2 (wordAt s 0) ^^^ rotateRight 13 (wordAt s 0) ^^^ rotateRight 22 (wordAt s 0))
    + majority (wordAt s 0) (wordAt s 1) (wordAt s 2)

/-- **One round**: every word moves on by one place, and two of them change on the way. -/
structure IsRound (s : State) (k w : UInt32) (t : State) : Prop where
  first : wordAt t 0 = added s k w + mixed s
  fifth : wordAt t 4 = wordAt s 3 + added s k w
  moved : ∀ i ∈ [0, 1, 2, 4, 5, 6], wordAt t (i + 1) = wordAt s i

theorem isRound_round (s : State) (k w : UInt32) : IsRound s k w (round s k w) := by
  refine ⟨?_, ?_, ?_⟩
  · simp [wordAt_eq, round, added, mixed, choose, majority, rotate_eq]
  · simp [wordAt_eq, round, added, choose, rotate_eq]
  · simp [wordAt_eq, round]

theorem IsRound.unique {s t t' : State} {k w : UInt32} (h : IsRound s k w t)
    (h' : IsRound s k w t') : t = t' := by
  have hword (i : Nat) (hi : i < 8) : wordAt t i = wordAt t' i := by
    match i, hi with
    | 0, _ => exact h.first.trans h'.first.symm
    | 4, _ => exact h.fifth.trans h'.fifth.symm
    | 1, _ | 2, _ | 3, _ | 5, _ | 6, _ | 7, _ =>
        exact (h.moved _ (by decide)).trans (h'.moved _ (by decide)).symm
  refine Vector.ext fun i hi => ?_
  rw [← wordAt_eq t hi, ← wordAt_eq t' hi, hword i hi]

/-! ### Schedules -/

/-- Words that come later do not matter for a word. -/
theorem nextWord_append {w : List UInt32} {t : Nat} (hlow : 16 ≤ t) (hhigh : t ≤ w.length)
    (more : List UInt32) : nextWord (w ++ more) t = nextWord w t := by
  have hget {i : Nat} (hpos : 0 < i) (hi : i ≤ 16) :
      (w ++ more).getD (t - i) 0 = w.getD (t - i) 0 := by
    rw [List.getD_eq_getElem?_getD, List.getD_eq_getElem?_getD,
      List.getElem?_append_left (by omega)]
  simp only [nextWord, hget (i := 2) (by decide) (by decide), hget (i := 7) (by decide) (by decide),
    hget (i := 15) (by decide) (by decide), hget (i := 16) (by decide) (by decide)]

/-- One more word of a schedule that is kept with its latest word first. -/
theorem extend_reverse {w : List UInt32} (h : 16 ≤ w.length) (n : Nat) :
    extend (n + 1) w.reverse = extend n (w ++ [nextWord w w.length]).reverse := by
  have hget {i : Nat} (hi : i < 16) : w.reverse.getD i 0 = w.getD (w.length - (i + 1)) 0 := by
    rw [List.getD_eq_getElem?_getD, List.getD_eq_getElem?_getD, List.getElem?_reverse (by omega)]
    congr 2
    omega
  rw [extend, hget (i := 1) (by decide), hget (i := 6) (by decide), hget (i := 14) (by decide),
    hget (i := 15) (by decide), List.reverse_append]
  simp [nextWord, spreadNear, spreadFar, rotate_eq]

/-- **A schedule goes on** by words that each come from four earlier ones. -/
theorem exists_extend_reverse (n : Nat) {w : List UInt32} (h : 16 ≤ w.length)
    (hnext : ∀ t, 16 ≤ t → t < w.length → w.getD t 0 = nextWord w t) :
    ∃ more, (extend n w.reverse).reverse = w ++ more ∧ more.length = n ∧
      ∀ t, 16 ≤ t → t < w.length + n → (w ++ more).getD t 0 = nextWord (w ++ more) t := by
  induction n generalizing w with
  | zero => exact ⟨[], by simp [extend], rfl, by simpa using hnext⟩
  | succ n ih =>
      -- one word more is a beginning of the same schedule
      obtain ⟨more, heq, hlength, hmore⟩ := ih (w := w ++ [nextWord w w.length])
        (by rw [List.length_append]; omega) fun t hlow hhigh => by
          rw [List.length_append, List.length_singleton] at hhigh
          rw [nextWord_append hlow (by omega)]
          rcases Nat.lt_or_eq_of_le (Nat.le_of_lt_succ hhigh) with hlt | rfl
          · rw [← hnext t hlow hlt, List.getD_eq_getElem?_getD, List.getD_eq_getElem?_getD,
              List.getElem?_append_left hlt]
          · simp
      refine ⟨nextWord w w.length :: more, ?_, by rw [List.length_cons, hlength], ?_⟩
      · rw [extend_reverse h, heq, List.append_assoc]
        rfl
      · rw [List.length_append, List.length_singleton, List.append_assoc] at hmore
        intro t hlow hhigh
        exact hmore t hlow (by omega)

theorem isSchedule_schedule {block : List UInt32} (h : block.length = 16) :
    IsSchedule block (schedule block) := by
  obtain ⟨more, heq, hlength, hnext⟩ := exists_extend_reverse 48 (w := block) (by omega)
    fun t hlow hhigh => absurd hhigh (by omega)
  rw [h] at hnext
  rw [schedule, heq]
  exact ⟨by rw [List.length_append, h, hlength], by rw [← h, List.take_left], hnext⟩

theorem IsSchedule.unique {block w w' : List UInt32} (h : IsSchedule block w)
    (h' : IsSchedule block w') : w = w' := by
  -- a word is known from those that it comes from, which are earlier
  have hget (t : Nat) (ht : t < 64) : w.getD t 0 = w'.getD t 0 := by
    induction t using Nat.strongRecOn with
    | ind t ih =>
        by_cases hlow : t < 16
        · have hfirst (v : List UInt32) : v.getD t 0 = (v.take 16).getD t 0 := by
            rw [List.getD_eq_getElem?_getD, List.getD_eq_getElem?_getD,
              List.getElem?_take_of_lt hlow]
          rw [hfirst w, hfirst w', h.first, h'.first]
        · rw [h.next t (by omega) ht, h'.next t (by omega) ht]
          simp only [nextWord, ih (t - 2) (by omega) (by omega), ih (t - 7) (by omega) (by omega),
            ih (t - 15) (by omega) (by omega), ih (t - 16) (by omega) (by omega)]
  refine List.ext_getElem (h.length.trans h'.length.symm) fun t ht ht' => ?_
  have hword := hget t (by rwa [h.length] at ht)
  rwa [List.getD_eq_getElem?_getD, List.getD_eq_getElem?_getD, List.getElem?_eq_getElem ht,
    List.getElem?_eq_getElem ht'] at hword

/-! ### Whole messages -/

/-- **What a block does to the eight words**: 64 rounds, after which the words from before are
added. -/
inductive Compresses (s : State) (block : List UInt32) : State → Prop
  | of {w : List UInt32} {v : Nat → State} (hschedule : IsSchedule block w) (hstart : v 0 = s)
      (hrounds : ∀ i < 64, IsRound (v i) (roundConstants.getD i 0) (w.getD i 0) (v (i + 1))) :
      Compresses s block (Vector.zipWith (· + ·) s (v 64))

/-- **What blocks do to the eight words**, one after the other. -/
inductive Absorbs : State → List (List UInt32) → State → Prop
  | done (s : State) : Absorbs s [] s
  | block {s t u : State} {block : List UInt32} {rest : List (List UInt32)}
      (hblock : Compresses s block t) (hrest : Absorbs t rest u) : Absorbs s (block :: rest) u

/-- The words after some rounds. -/
def afterRounds (s : State) (kws : List (UInt32 × UInt32)) (n : Nat) : State :=
  (kws.take n).foldl (fun acc kw => round acc kw.1 kw.2) s

theorem isRound_afterRounds (s : State) {kws : List (UInt32 × UInt32)} {n : Nat}
    (h : n < kws.length) :
    IsRound (afterRounds s kws n) kws[n].1 kws[n].2 (afterRounds s kws (n + 1)) := by
  have hstep : afterRounds s kws (n + 1) = round (afterRounds s kws n) kws[n].1 kws[n].2 := by
    rw [afterRounds, List.take_succ_eq_append_getElem h, List.foldl_append]
    rfl
  rw [hstep]
  exact isRound_round _ _ _

theorem compresses_compress (s : State) {block : List UInt32} (h : block.length = 16) :
    Compresses s block (compress s block) := by
  have hschedule := isSchedule_schedule h
  have hconstants : roundConstants.length = 64 := rfl
  have hlength : (roundConstants.zip (schedule block)).length = 64 := by
    rw [List.length_zip, hschedule.length, hconstants]
    rfl
  have hfinal : compress s block =
      Vector.zipWith (· + ·) s (afterRounds s (roundConstants.zip (schedule block)) 64) := by
    rw [afterRounds, List.take_of_length_le (Nat.le_of_eq hlength)]
    rfl
  rw [hfinal]
  refine .of hschedule rfl fun i hi => ?_
  have hzip : i < (roundConstants.zip (schedule block)).length := by rwa [hlength]
  have hround := isRound_afterRounds s hzip
  rw [List.getElem_zip] at hround
  rw [List.getD_eq_getElem?_getD, List.getD_eq_getElem?_getD,
    List.getElem?_eq_getElem (by rwa [hconstants]),
    List.getElem?_eq_getElem (by rwa [hschedule.length])]
  exact hround

theorem Compresses.unique {s t t' : State} {block : List UInt32} (h : Compresses s block t)
    (h' : Compresses s block t') : t = t' := by
  obtain ⟨hschedule, hstart, hrounds⟩ := h
  obtain ⟨hschedule', hstart', hrounds'⟩ := h'
  rename_i w v w' v'
  obtain rfl := hschedule.unique hschedule'
  -- the two go through the same states, round by round
  have hsame (i : Nat) (hi : i ≤ 64) : v i = v' i := by
    induction i with
    | zero => rw [hstart, hstart']
    | succ i ih =>
        have hround' := hrounds' i (by omega)
        rw [← ih (by omega)] at hround'
        exact (hrounds i (by omega)).unique hround'
  rw [hsame 64 (by decide)]

theorem absorbs_foldl (s : State) {bs : List (List UInt32)} (h : ∀ b ∈ bs, b.length = 16) :
    Absorbs s bs (bs.foldl compress s) := by
  induction bs generalizing s with
  | nil => exact .done s
  | cons b bs ih =>
      exact .block (compresses_compress s (h b List.mem_cons_self))
        (ih (compress s b) fun x hx => h x (List.mem_cons_of_mem b hx))

theorem Absorbs.unique {s t t' : State} {bs : List (List UInt32)} (h : Absorbs s bs t)
    (h' : Absorbs s bs t') : t = t' := by
  induction h with
  | done s =>
      cases h' with
      | done => rfl
  | block hblock _ ih =>
      cases h' with
      | block hblock' hrest' =>
          obtain rfl := hblock.unique hblock'
          exact ih hrest'

/-- **The digest of a message, by the rules**: the message is padded, cut into blocks of sixteen
words, taken in from the first to the last block, and the eight words at the end are written
down. -/
inductive IsDigest (message : List UInt8) : List UInt8 → Prop
  | of {bytes : List UInt8} {bs : List (List UInt32)} {s : State} (hpadded : IsPadded message bytes)
      (hlength : ∀ b ∈ bs, b.length = 16) (hblocks : bs.flatten.flatMap bytesOfWord = bytes)
      (habsorbs : Absorbs initial bs s) : IsDigest message (s.toList.flatMap bytesOfWord)

theorem IsDigest.unique {message bytes bytes' : List UInt8} (h : IsDigest message bytes)
    (h' : IsDigest message bytes') : bytes = bytes' := by
  obtain ⟨hpadded, hlength, hblocks, habsorbs⟩ := h
  obtain ⟨hpadded', hlength', hblocks', habsorbs'⟩ := h'
  have hwords := congrArg words (hblocks.trans ((hpadded.unique hpadded').trans hblocks'.symm))
  rw [words_flatMap, words_flatMap] at hwords
  obtain rfl := eq_of_flatten_eq hlength hlength' hwords
  rw [habsorbs.unique habsorbs']

theorem toList_eq_wordAt (s : State) : s.toList = (List.range 8).map (wordAt s) := by
  refine List.ext_getElem (by simp) fun i hi _ => ?_
  rw [List.getElem_map, List.getElem_range, wordAt, List.getD_eq_getElem?_getD,
    List.getElem?_eq_getElem hi]
  rfl

/-- The digest is written down word by word. -/
theorem toList_digest (message : List UInt8) :
    (digest message).toList = (final message).toList.flatMap bytesOfWord := by
  have hbyte (i : Fin 32) :
      (final message)[i.val / 4] = wordAt (final message) (i.val / 4) :=
    (wordAt_eq _ (by omega)).symm
  simp only [digest, hbyte]
  generalize final message = s
  rw [toList_eq_wordAt, Vector.toList_ofFn]
  rfl

theorem isDigest_digest (message : List UInt8) : IsDigest message (digest message).toList := by
  have hpadded := isPadded_padded message
  have hmod := hpadded.length_mod
  have hwords : (words (padded message)).length = 16 * ((padded message).length / 64) := by
    have := @length_words (padded message) (by omega)
    omega
  rw [toList_digest]
  have hlength : ∀ b ∈ blocks ((padded message).length / 64) (words (padded message)),
      b.length = 16 := fun b hb => length_of_mem_blocks hwords hb
  refine .of hpadded hlength ?_ (absorbs_foldl initial hlength)
  rw [flatten_blocks hwords]
  exact flatMap_words (by omega)

/-- **The digest of a message is what the rules say**, and they say nothing else. -/
theorem isDigest_iff {message bytes : List UInt8} :
    IsDigest message bytes ↔ bytes = (digest message).toList := by
  constructor
  · intro h
    exact h.unique (isDigest_digest message)
  · intro h
    rw [h]
    exact isDigest_digest message

end DockerClient.Sha256
