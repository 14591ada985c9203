import BlogConsole.Text.Digit
import Mathlib.Data.Nat.Digits.Defs

/-!
Printed whole numbers are read back, as long as they do not have too many digits.
-/

namespace BlogConsole.Text

variable {c : Char} {cs : List Char}

def digitOf (c : Char) : Nat := c.toNat - '0'.toNat

lemma isDigit_bounds (h : c.isDigit = true) : 48 ≤ c.toNat ∧ c.toNat ≤ 57 := by
  simpa [Char.isDigit, UInt32.le_iff_toNat_le] using h

lemma digitValue?_of_isDigit (h : c.isDigit = true) : digitValue? c = some (digitOf c) := by
  obtain ⟨low, high⟩ := isDigit_bounds h
  rw [digitValue?, zeroDigits, List.findSome?_cons, if_pos ⟨low, high⟩]
  rfl

lemma isWhite_of_isDigit (h : c.isDigit = true) : isWhite c = false := by
  obtain ⟨low, high⟩ := isDigit_bounds h
  have apart : ∀ r ∈ whiteRanges, r.2 < 48 ∨ 57 < r.1 := by decide
  rw [isWhite, inRanges, List.any_eq_false]
  intro r hr
  simp only [Bool.and_eq_true, decide_eq_true_eq, not_and]
  have := apart r hr
  omega

lemma trimBy_of_none {p : Char → Bool} (h : ∀ c ∈ cs, p c = false) : trimBy p cs = cs := by
  have kept {ds : List Char} (h : ∀ c ∈ ds, p c = false) : ds.dropWhile p = ds := by
    cases ds with
    | nil => rfl
    | cons d ds => rw [List.dropWhile_cons_of_neg (by simp [h d])]
  rw [trimBy, dropEnd, kept h, kept fun c hc => h c (List.mem_reverse.mp hc),
    List.reverse_reverse]

lemma spacedDigits?_of_isDigit (h : ∀ c ∈ cs, c.isDigit = true) {afterDigit : Bool}
    (start : cs = [] → afterDigit = true) :
    spacedDigits? digitValue? afterDigit cs = some (cs.map digitOf) := by
  induction cs generalizing afterDigit with
  | nil => simp [spacedDigits?, start rfl]
  | cons c cs ih =>
    rw [spacedDigits?, digitValue?_of_isDigit (h c List.mem_cons_self)]
    dsimp only
    rw [ih (fun d hd => h d (List.mem_cons_of_mem _ hd)) (fun _ => rfl)]
    rfl

lemma ofDigits_toDigits (n : Nat) : ofDigits ((Nat.toDigits 10 n).map digitOf) = n := by
  have folded : Nat.ofDigitChars 10 (Nat.toDigits 10 n) 0 =
      (Nat.toDigits 10 n).foldl (fun n c => 10 * n + digitOf c) 0 := Nat.ofDigitChars_eq_foldl
  rw [ofDigits, List.foldl_map, ← folded, Nat.ofDigitChars_ten_toDigits]

lemma isDigit_toDigits (n : Nat) : ∀ c ∈ Nat.toDigits 10 n, c.isDigit = true :=
  fun _ hc => Nat.isDigit_of_mem_toDigits (by decide) (by decide) hc

lemma splitSign_of_isDigit (h : c.isDigit = true) : splitSign (c :: cs) = (false, c :: cs) := by
  unfold splitSign
  split
  · next same => exact absurd ((List.cons.inj same).1 ▸ h) (by decide)
  · next same => exact absurd ((List.cons.inj same).1 ▸ h) (by decide)
  · rfl

lemma splitSign_toDigits (n : Nat) :
    splitSign (Nat.toDigits 10 n) = (false, Nat.toDigits 10 n) := by
  have ne : Nat.toDigits 10 n ≠ [] := Nat.toDigits_ne_nil
  obtain ⟨c, cs, digits⟩ := List.exists_cons_of_ne_nil ne
  have first := isDigit_toDigits n c (digits ▸ List.mem_cons_self)
  rw [digits, splitSign_of_isDigit first]

/-- Digits are read behind a sign, unless there are too many. -/
lemma readInteger_of_split {negative : Bool} {n : Nat}
    (h : splitSign (trimBy isWhite cs) = (negative, Nat.toDigits 10 n)) :
    readInteger cs =
      if n < 10 ^ maxIntegerDigits then some (if negative then -(n : Int) else n) else none := by
  have spelled : spacedDigits? digitValue? false (Nat.toDigits 10 n) =
      some ((Nat.toDigits 10 n).map digitOf) :=
    spacedDigits?_of_isDigit (isDigit_toDigits n) fun h => absurd h Nat.toDigits_ne_nil
  have short : ((Nat.toDigits 10 n).map digitOf).length ≤ maxIntegerDigits ↔
      n < 10 ^ maxIntegerDigits := by
    rw [List.length_map]
    exact Nat.length_toDigits_le_iff (by decide) (by decide)
  rw [readInteger, h]
  dsimp only
  rw [spelled]
  dsimp only
  rw [ofDigits_toDigits]
  exact if_congr short rfl rfl

lemma toList_toString_natCast (n : Nat) : (toString (n : Int)).toList = Nat.toDigits 10 n :=
  Nat.toList_repr

lemma toList_toString_negSucc (n : Nat) :
    (toString (Int.negSucc n)).toList = '-' :: Nat.toDigits 10 (n + 1) := by
  have text : toString (Int.negSucc n) = "-" ++ Nat.repr (n + 1) := rfl
  rw [text, String.toList_append, Nat.toList_repr]
  rfl

/-- **Printed whole numbers are read back.** A whole number is read from the text that it is printed
as, unless it has too many digits. -/
theorem readInteger_toString (n : Int) :
    readInteger (toString n).toList =
      if n.natAbs < 10 ^ maxIntegerDigits then some n else none := by
  have dark (m : Nat) : ∀ c ∈ Nat.toDigits 10 m, isWhite c = false :=
    fun c hc => isWhite_of_isDigit (isDigit_toDigits m c hc)
  cases n with
  | ofNat m =>
    have split : splitSign (trimBy isWhite (Nat.toDigits 10 m)) = (false, Nat.toDigits 10 m) := by
      rw [trimBy_of_none (dark m), splitSign_toDigits]
    rw [Int.ofNat_eq_natCast, toList_toString_natCast, readInteger_of_split split]
    rfl
  | negSucc m =>
    have split : splitSign (trimBy isWhite ('-' :: Nat.toDigits 10 (m + 1))) =
        (true, Nat.toDigits 10 (m + 1)) := by
      rw [trimBy_of_none (List.forall_mem_cons.mpr ⟨rfl, dark (m + 1)⟩)]
      rfl
    rw [toList_toString_negSucc, readInteger_of_split split]
    rfl

theorem toString_injective : Function.Injective (toString : Int → String) := by
  have read {m n : Nat} (same : Nat.toDigits 10 m = Nat.toDigits 10 n) : m = n := by
    rw [← Nat.ofDigitChars_ten_toDigits (n := m), same, Nat.ofDigitChars_ten_toDigits]
  have apart (m n : Nat) : toString (m : Int) ≠ toString (Int.negSucc n) := by
    intro same
    have spelled := congrArg String.toList same
    rw [toList_toString_natCast, toList_toString_negSucc] at spelled
    -- a digit is no sign
    cases isDigit_toDigits m '-' (spelled ▸ List.mem_cons_self)
  intro a b same
  have spelled := congrArg String.toList same
  cases a with
  | ofNat m =>
    cases b with
    | ofNat n =>
      rw [Int.ofNat_eq_natCast, Int.ofNat_eq_natCast, toList_toString_natCast,
        toList_toString_natCast] at spelled
      rw [read spelled]
    | negSucc n => exact absurd same (apart m n)
  | negSucc m =>
    cases b with
    | ofNat n => exact absurd same.symm (apart n m)
    | negSucc n =>
      rw [toList_toString_negSucc, toList_toString_negSucc] at spelled
      rw [Nat.succ.inj (read (List.cons.inj spelled).2)]

end BlogConsole.Text
