import BlogConsole.Text.Encoding
import Mathlib.Data.List.TakeWhile
import Mathlib.Tactic.Common

/-!
Text that is written as UTF-8 is read back.

A character is written as one byte to four, and each of these bytes passes the test that reading
puts it to: no character is a surrogate, and none is written longer than it has to be.
-/

namespace BlogConsole.Text

variable {lone : Bool} {position : Nat} {a b c d : UInt8} {rest : List UInt8}

/-! ### Bytes -/

lemma isTail_iff : isTail b = true ↔ 0x80 ≤ b.toNat ∧ b.toNat < 0xC0 := by
  simp [isTail, UInt8.le_iff_toNat_le, UInt8.lt_iff_toNat_lt]

/-- What the second byte of a character has to be, by the first one. -/
lemma isSecond_iff :
    isSecond a b = true ↔ 0x80 ≤ b.toNat ∧ b.toNat < 0xC0 ∧ (a.toNat = 0xE0 → 0xA0 ≤ b.toNat) ∧
      (a.toNat = 0xED → b.toNat < 0xA0) ∧ (a.toNat = 0xF0 → 0x90 ≤ b.toNat) ∧
      (a.toNat = 0xF4 → b.toNat < 0x90) := by
  have toNat (n : UInt8) : a = n ↔ a.toNat = n.toNat := UInt8.toNat_inj.symm
  simp only [isSecond, secondRange, toNat, Bool.and_eq_true, decide_eq_true_eq,
    UInt8.le_iff_toNat_le]
  have e0 : (0xE0 : UInt8).toNat = 0xE0 := rfl
  have ed : (0xED : UInt8).toNat = 0xED := rfl
  have f0 : (0xF0 : UInt8).toNat = 0xF0 := rfl
  have f4 : (0xF4 : UInt8).toNat = 0xF4 := rfl
  rw [e0, ed, f0, f4]
  split_ifs with h h h h <;> simp <;> omega

/-! ### The widths of a character -/

lemma decodeUtf8_one (ha : a < 0x80) :
    decodeUtf8 lone position (a :: rest) =
      (decodeUtf8 lone (position + 1) rest).map (Char.ofNat a.toNat :: ·) := by
  rw [decodeUtf8.eq_def]
  exact if_pos ha

/-- A byte that reaches a bound is not below a lesser one. -/
lemma not_lt_lesser {m n : UInt8} (ha : n ≤ a) (h : m ≤ n) : ¬ a < m :=
  UInt8.not_lt.mpr (UInt8.le_trans h ha)

lemma decodeUtf8_two (ha : 0xC2 ≤ a ∧ a < 0xE0) (hb : isTail b = true) :
    decodeUtf8 lone position (a :: b :: rest) =
      (decodeUtf8 lone (position + 2) rest).map
        (Char.ofNat (joinTails (a.toNat % 0x20) [b]) :: ·) := by
  rw [decodeUtf8.eq_def]
  dsimp only
  rw [if_neg (not_lt_lesser ha.1 (by decide)), if_neg (UInt8.not_lt.mpr ha.1), if_pos ha.2,
    if_pos hb]

lemma decodeUtf8_three (ha : 0xE0 ≤ a ∧ a < 0xF0) (hb : isSecond a b = true)
    (hc : isTail c = true) :
    decodeUtf8 lone position (a :: b :: c :: rest) =
      (decodeUtf8 lone (position + 3) rest).map
        (Char.ofNat (joinTails (a.toNat % 0x10) [b, c]) :: ·) := by
  rw [decodeUtf8.eq_def]
  dsimp only
  rw [if_neg (not_lt_lesser ha.1 (by decide)), if_neg (not_lt_lesser ha.1 (by decide)),
    if_neg (UInt8.not_lt.mpr ha.1), if_pos ha.2, if_pos hb, if_pos hc]

lemma decodeUtf8_four (ha : 0xF0 ≤ a ∧ a < 0xF5) (hb : isSecond a b = true)
    (hc : isTail c = true) (hd : isTail d = true) :
    decodeUtf8 lone position (a :: b :: c :: d :: rest) =
      (decodeUtf8 lone (position + 4) rest).map
        (Char.ofNat (joinTails (a.toNat % 0x08) [b, c, d]) :: ·) := by
  rw [decodeUtf8.eq_def]
  dsimp only
  rw [if_neg (not_lt_lesser ha.1 (by decide)), if_neg (not_lt_lesser ha.1 (by decide)),
    if_neg (not_lt_lesser ha.1 (by decide)), if_neg (UInt8.not_lt.mpr ha.1), if_pos ha.2, if_pos hb,
    if_pos hc, if_pos hd]

/-! ### Characters -/

/-- The code point of a character is no surrogate and at most `0x10FFFF`. -/
lemma toNat_valid (c : Char) :
    c.toNat < 0xD800 ∨ 0xDFFF < c.toNat ∧ c.toNat < 0x110000 := c.valid

/-- The bytes of a character, by the number of bits that its code point needs. -/
lemma utf8EncodeChar_eq (c : Char) :
    String.utf8EncodeChar c =
      if c.toNat ≤ 0x7F then [UInt8.ofNat c.toNat]
      else if c.toNat ≤ 0x7FF then
        [UInt8.ofNat (c.toNat / 64 % 32 + 0xC0), UInt8.ofNat (c.toNat % 64 + 0x80)]
      else if c.toNat ≤ 0xFFFF then
        [UInt8.ofNat (c.toNat / 4096 % 16 + 0xE0), UInt8.ofNat (c.toNat / 64 % 64 + 0x80),
          UInt8.ofNat (c.toNat % 64 + 0x80)]
      else
        [UInt8.ofNat (c.toNat / 262144 % 8 + 0xF0), UInt8.ofNat (c.toNat / 4096 % 64 + 0x80),
          UInt8.ofNat (c.toNat / 64 % 64 + 0x80), UInt8.ofNat (c.toNat % 64 + 0x80)] := rfl

lemma toNat_byte {n : Nat} (h : n < 256) : (UInt8.ofNat n).toNat = n := UInt8.toNat_ofNat_of_lt h

lemma byte_lt {n : Nat} {high : UInt8} (h : n < high.toNat) : UInt8.ofNat n < high := by
  rwa [UInt8.lt_iff_toNat_lt, toNat_byte (Nat.lt_trans h high.toNat_lt)]

lemma byte_between {n : Nat} {low high : UInt8} (h : low.toNat ≤ n) (h' : n < high.toNat) :
    low ≤ UInt8.ofNat n ∧ UInt8.ofNat n < high := by
  refine ⟨?_, byte_lt h'⟩
  rwa [UInt8.le_iff_toNat_le, toNat_byte (Nat.lt_trans h' high.toNat_lt)]

lemma toNat_tail (n : Nat) : (UInt8.ofNat (n % 64 + 0x80)).toNat = n % 64 + 0x80 :=
  toNat_byte (Nat.lt_trans (Nat.add_lt_add_right (Nat.mod_lt n (by decide)) _) (by decide))

lemma isTail_tail (n : Nat) : isTail (UInt8.ofNat (n % 64 + 0x80)) = true := by
  rw [isTail_iff, toNat_tail]
  omega

/-- A tail byte adds six bits to a number. -/
lemma joinTails_cons (lead n : Nat) (tails : List UInt8) :
    joinTails lead (UInt8.ofNat (n % 64 + 0x80) :: tails) =
      joinTails (64 * lead + n % 64) tails := by
  have bits : (n % 64 + 0x80) % 0x40 = n % 64 := by omega
  rw [joinTails, List.foldl_cons, toNat_tail, bits, joinTails]

lemma joinTails_nil (lead : Nat) : joinTails lead [] = lead := rfl

lemma decodeUtf8_encodeChar (c : Char) :
    decodeUtf8 lone position (String.utf8EncodeChar c ++ rest) =
      (decodeUtf8 lone (position + (String.utf8EncodeChar c).length) rest).map (c :: ·) := by
  have valid := toNat_valid c
  have self {n : Nat} (h : n = c.toNat) : Char.ofNat n = c := h ▸ Char.ofNat_toNat c
  rw [utf8EncodeChar_eq]
  split_ifs with one two three
  · refine (decodeUtf8_one (byte_lt (Nat.lt_succ_of_le one))).trans ?_
    rw [self (toNat_byte (by omega))]
    rfl
  · have low : 0xC2 ≤ c.toNat / 64 % 32 + 0xC0 := by omega
    have high : c.toNat / 64 % 32 + 0xC0 < 0xE0 := by omega
    have lead : (c.toNat / 64 % 32 + 0xC0) % 0x20 = c.toNat / 64 := by omega
    refine (decodeUtf8_two (byte_between low high) (isTail_tail _)).trans ?_
    rw [toNat_byte (by omega), lead, joinTails_cons, joinTails_nil, self (by omega)]
    rfl
  · have low : 0xE0 ≤ c.toNat / 4096 % 16 + 0xE0 := Nat.le_add_left _ _
    have high : c.toNat / 4096 % 16 + 0xE0 < 0xF0 := by omega
    have lead : (c.toNat / 4096 % 16 + 0xE0) % 0x10 = c.toNat / 4096 := by omega
    refine (decodeUtf8_three (byte_between low high) ?_ (isTail_tail _)).trans ?_
    · rw [isSecond_iff, toNat_tail, toNat_byte (by omega)]
      omega
    · rw [toNat_byte (by omega), lead, joinTails_cons, joinTails_cons, joinTails_nil,
        self (by omega)]
      rfl
  · have low : 0xF0 ≤ c.toNat / 262144 % 8 + 0xF0 := Nat.le_add_left _ _
    have high : c.toNat / 262144 % 8 + 0xF0 < 0xF5 := by omega
    have lead : (c.toNat / 262144 % 8 + 0xF0) % 0x08 = c.toNat / 262144 := by omega
    refine (decodeUtf8_four (byte_between low high) ?_ (isTail_tail _)
      (isTail_tail _)).trans ?_
    · rw [isSecond_iff, toNat_tail, toNat_byte (by omega)]
      omega
    · rw [toNat_byte (by omega), lead, joinTails_cons, joinTails_cons, joinTails_cons,
        joinTails_nil, self (by omega)]
      rfl

/-! ### Texts -/

/-- **Text that is written is read back.** -/
theorem decodeUtf8_encodeUtf8 (cs : List Char) :
    decodeUtf8 lone position (encodeUtf8 cs) = .ok cs := by
  induction cs generalizing position with
  | nil => rfl
  | cons c cs ih =>
    rw [encodeUtf8, List.flatMap_cons, decodeUtf8_encodeChar, ← encodeUtf8, ih]
    rfl

lemma length_le_encodeUtf8 (cs : List Char) : cs.length ≤ (encodeUtf8 cs).length := by
  induction cs with
  | nil => exact Nat.le_refl _
  | cons c cs ih =>
    have := List.length_pos_iff.mpr (String.utf8EncodeChar_ne_nil (c := c))
    rw [encodeUtf8, List.flatMap_cons, List.length_append, ← encodeUtf8, List.length_cons]
    omega

/-! ### Counting characters -/

def starts (bytes : List UInt8) : Nat := bytes.countP fun b => !isTail b

lemma starts_append (bytes more : List UInt8) :
    starts (bytes ++ more) = starts bytes + starts more := List.countP_append

lemma isTail_lead {n : Nat} (h : n < 0x80 ∨ 0xC0 ≤ n ∧ n < 256) :
    isTail (UInt8.ofNat n) = false := by
  rw [← Bool.not_eq_true, isTail_iff, toNat_byte (by omega)]
  omega

lemma starts_encodeChar (c : Char) : starts (String.utf8EncodeChar c) = 1 := by
  have valid := toNat_valid c
  rw [utf8EncodeChar_eq]
  split_ifs with one two three <;>
    simp only [starts, List.countP_cons, List.countP_nil, isTail_tail] <;>
    rw [isTail_lead (by omega)] <;> rfl

/-- As many characters start in the bytes of a text as it has. -/
lemma starts_encodeUtf8 (cs : List Char) : starts (encodeUtf8 cs) = cs.length := by
  induction cs with
  | nil => rfl
  | cons c cs ih =>
    rw [encodeUtf8, List.flatMap_cons, starts_append, starts_encodeChar, ← encodeUtf8, ih,
      List.length_cons]
    omega

/-! ### Encodings -/

lemma encodingOfZeros_nonzero (ha : a ≠ 0) (hb : b ≠ 0) :
    encodingOfZeros (a :: b :: rest) = .utf8 := by
  match rest with
  | [] => rw [encodingOfZeros, if_neg ha, if_neg hb]
  | [_] => rfl
  | _ :: _ :: _ => rw [encodingOfZeros, if_neg ha, if_neg hb]

/-- Bytes that start with two of ASCII, none of them zero, hold UTF-8. -/
lemma detectEncoding_ascii (ha : a < 0x80) (ha0 : a ≠ 0) (hb0 : b ≠ 0) :
    detectEncoding (a :: b :: rest) = (.utf8, 0) := by
  have first : ∀ m ∈ byteOrderMarks, ∃ c cs, m.1 = c :: cs ∧ (c = 0 ∨ ¬ c < 0x80) := by
    simp [byteOrderMarks]
  have unmarked : byteOrderMarks.find? (fun m => m.1.isPrefixOf (a :: b :: rest)) = none := by
    refine List.find?_eq_none.mpr fun m hm starts => ?_
    obtain ⟨c, cs, mark, hc⟩ := first m hm
    rw [mark, List.isPrefixOf_iff_prefix, List.cons_prefix_cons] at starts
    obtain rfl := starts.1
    exact hc.elim ha0 fun h => h ha
  rw [detectEncoding, unmarked]
  exact congrArg (·, 0) (encodingOfZeros_nonzero ha0 hb0)

/-- A text that starts with two characters of ASCII, none of them zero, is read back without being
told that it is UTF-8. -/
theorem decode_encodeUtf8 {c d : Char} (hc : c.toNat ≤ 0x7F) (hc0 : c ≠ '\x00')
    (hd : d.toNat ≤ 0x7F) (hd0 : d ≠ '\x00') (cs : List Char) :
    decode (encodeUtf8 (c :: d :: cs)) = .ok (c :: d :: cs) := by
  have single {c : Char} (hc : c.toNat ≤ 0x7F) :
      String.utf8EncodeChar c = [UInt8.ofNat c.toNat] := by
    rw [utf8EncodeChar_eq, if_pos hc]
  have nonzero {c : Char} (hc : c.toNat ≤ 0x7F) (hc0 : c ≠ '\x00') : UInt8.ofNat c.toNat ≠ 0 := by
    intro h
    have zero := congrArg UInt8.toNat h
    rw [toNat_byte (by omega)] at zero
    exact hc0 (Char.toNat_inj.mp zero)
  have detected : detectEncoding (encodeUtf8 (c :: d :: cs)) = (.utf8, 0) := by
    rw [encodeUtf8, List.flatMap_cons, List.flatMap_cons, single hc, single hd]
    exact detectEncoding_ascii (byte_lt (Nat.lt_succ_of_le hc)) (nonzero hc hc0) (nonzero hd hd0)
  rw [decode, detected]
  exact decodeUtf8_encodeUtf8 _

/-! ### ASCII -/

def Ascii (cs : List Char) : Prop := ∀ c ∈ cs, c.toNat < 0x80

instance (cs : List Char) : Decidable (Ascii cs) := List.decidableBAll _ cs

@[simp] lemma ascii_nil : Ascii [] := List.forall_mem_nil _

@[simp] lemma ascii_cons {c : Char} {cs : List Char} :
    Ascii (c :: cs) ↔ c.toNat < 0x80 ∧ Ascii cs := List.forall_mem_cons

@[simp] lemma ascii_append {cs ds : List Char} : Ascii (cs ++ ds) ↔ Ascii cs ∧ Ascii ds :=
  List.forall_mem_append

/-! ### What can be written -/

/-- A text without lone surrogates. -/
def Writable (cs : List Char) : Prop := ∀ c ∈ cs, isSurrogate c = false

instance (cs : List Char) : Decidable (Writable cs) := List.decidableBAll _ cs

@[simp] lemma writable_cons {c : Char} {cs : List Char} :
    Writable (c :: cs) ↔ isSurrogate c = false ∧ Writable cs := List.forall_mem_cons

@[simp] lemma writable_append {cs ds : List Char} :
    Writable (cs ++ ds) ↔ Writable cs ∧ Writable ds := List.forall_mem_append

lemma Ascii.writable {cs : List Char} (h : Ascii cs) : Writable cs := by
  intro c hc
  have small := h c hc
  have kept : codePoint c = c.toNat := if_neg (by simp; omega)
  rw [isSurrogate, kept]
  simp

lemma encodeError?_eq_none {r : Repertoire} {cs : List Char} :
    encodeError? r cs = none ↔ ∀ c ∈ cs, r.has c = true := by
  rw [← List.dropWhile_eq_nil_iff, encodeError?]
  split
  · next none => simp [none]
  · next some => simp [some]

lemma encodeError?_ascii {cs : List Char} : encodeError? .ascii cs = none ↔ Ascii cs := by
  rw [encodeError?_eq_none]
  simp [Repertoire.has, Ascii]

lemma encodeError?_unicode {cs : List Char} : encodeError? .unicode cs = none ↔ Writable cs := by
  rw [encodeError?_eq_none]
  simp [Repertoire.has, Writable]

end BlogConsole.Text
