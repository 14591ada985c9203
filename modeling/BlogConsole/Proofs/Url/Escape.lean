import BlogConsole.Proofs.Text.Utf8
import BlogConsole.Url.Percent
import Mathlib.Data.List.Infix

/-!
Escapes, and what is read where they stand.

A text is made of escapes and of characters with which no escape starts. Writing a component keeps
the escapes that it finds and adds others, and it never makes one out of what was none. So a
component is read as the bytes that the text itself would be read as, and these are the bytes of the
text only if it has no escapes.
-/

namespace BlogConsole.Url

open Text (encodeUtf8 isTail)

variable {b : UInt8} {c d : Char} {cs ds : List Char}

/-! ### Bytes and characters -/

lemma hexDigit?_hexUpper : ∀ n < 16, Json.hexDigit? (hexUpper n) = some n := by decide

lemma isUnreserved_hexUpper : ∀ n < 16, isUnreserved (hexUpper n) = true := by decide

/-- An escape is made of a percent sign and of digits. -/
lemma mem_escapeByte (h : d ∈ escapeByte b) : d = '%' ∨ isUnreserved d = true := by
  have bound : b.toNat < 256 := b.toNat_lt
  simp only [escapeByte, List.mem_cons, List.not_mem_nil, or_false] at h
  rcases h with rfl | rfl | rfl
  · exact .inl rfl
  · exact .inr (isUnreserved_hexUpper _ (by omega))
  · exact .inr (isUnreserved_hexUpper _ (by omega))

lemma mem_escapeChar (h : d ∈ escapeChar c) : d = '%' ∨ isUnreserved d = true := by
  obtain ⟨b, -, hd⟩ := List.mem_flatMap.mp h
  exact mem_escapeByte hd

lemma escapeChar_cut (c : Char) : ∃ rest, escapeChar c = '%' :: rest := by
  obtain ⟨b, bytes, first⟩ := List.exists_cons_of_ne_nil (String.utf8EncodeChar_ne_nil (c := c))
  rw [escapeChar, first]
  exact ⟨_, rfl⟩

/-- A byte that is escaped is read back, whatever follows it. -/
lemma unescape_escapeByte (b : UInt8) (rest : List Char) :
    unescape (escapeByte b ++ rest) = b :: unescape rest := by
  have bound : b.toNat < 256 := b.toNat_lt
  have high := hexDigit?_hexUpper (b.toNat / 16) (by omega)
  have low := hexDigit?_hexUpper (b.toNat % 16) (by omega)
  have whole : 16 * (b.toNat / 16) + b.toNat % 16 = b.toNat := by omega
  simp only [escapeByte, List.cons_append, List.nil_append, unescape, high, low, whole,
    UInt8.ofNat_toNat]

lemma unescape_escapeChar (c : Char) (rest : List Char) :
    unescape (escapeChar c ++ rest) = String.utf8EncodeChar c ++ unescape rest := by
  unfold escapeChar
  induction String.utf8EncodeChar c with
  | nil => rfl
  | cons b bytes ih => rw [List.flatMap_cons, List.append_assoc, unescape_escapeByte, ih]; rfl

/-! ### Pieces -/

def StartsEscape (cs : List Char) : Prop :=
  ∃ a b, isHexDigit a = true ∧ isHexDigit b = true ∧ ['%', a, b] <+: cs

def HasEscape (cs : List Char) : Prop :=
  ∃ a b, isHexDigit a = true ∧ isHexDigit b = true ∧ ['%', a, b] <:+: cs

lemma not_startsEscape_of_ne (h : c ≠ '%') : ¬ StartsEscape (c :: cs) := by
  rintro ⟨a, b, -, -, starts⟩
  exact h (List.cons_prefix_cons.mp starts).1.symm

lemma hasEscape_cons : HasEscape (c :: cs) ↔ StartsEscape (c :: cs) ∨ HasEscape cs := by
  simp only [HasEscape, StartsEscape, List.infix_cons_iff, and_or_left, exists_or]

lemma not_hasEscape_of_notMem (h : '%' ∉ cs) : ¬ HasEscape cs := by
  rintro ⟨a, b, -, -, within⟩
  exact h (within.subset (List.mem_cons_self ..))

/-- A text with an escape at its start. -/
lemma StartsEscape.cut (h : StartsEscape cs) :
    ∃ a b rest, isHexDigit a = true ∧ isHexDigit b = true ∧ cs = '%' :: a :: b :: rest := by
  obtain ⟨a, b, ha, hb, rest, rfl⟩ := h
  exact ⟨a, b, rest, ha, hb, rfl⟩

/-- A text is made of pieces: escapes, and characters with which none starts. -/
theorem escapes {motive : List Char → Prop} (nil : motive [])
    (escape : ∀ a b cs, isHexDigit a = true → isHexDigit b = true → motive cs →
      motive ('%' :: a :: b :: cs))
    (plain : ∀ c cs, ¬ StartsEscape (c :: cs) → motive cs → motive (c :: cs)) (cs : List Char) :
    motive cs := by
  induction n : cs.length using Nat.strong_induction_on generalizing cs with
  | _ n ih =>
    subst n
    rcases cs with _ | ⟨c, cs⟩
    · exact nil
    by_cases starts : StartsEscape (c :: cs)
    · obtain ⟨a, b, rest, ha, hb, same⟩ := starts.cut
      rw [same] at ih ⊢
      exact escape a b rest ha hb (ih rest.length (by simp; omega) rest rfl)
    · exact plain c cs starts (ih cs.length (by simp) cs rfl)

/-! ### Reading -/

variable {x y : Char}

lemma unescape_escape (hx : isHexDigit x = true) (hy : isHexDigit y = true) :
    ∃ b, ∀ cs, unescape ('%' :: x :: y :: cs) = b :: unescape cs := by
  obtain ⟨m, hm⟩ := Option.isSome_iff_exists.mp hx
  obtain ⟨n, hn⟩ := Option.isSome_iff_exists.mp hy
  exact ⟨UInt8.ofNat (16 * m + n), fun cs => by simp only [unescape, hm, hn]⟩

lemma unescape_cons (h : ¬ StartsEscape (c :: cs)) :
    unescape (c :: cs) = String.utf8EncodeChar c ++ unescape cs := by
  rw [unescape.eq_def]
  split
  · next none => cases none
  · next x y rest cut =>
    obtain ⟨rfl, rfl⟩ := List.cons.inj cut
    split
    · next hx hy =>
      refine absurd ⟨x, y, ?_, ?_, rest, rfl⟩ h
      · rw [isHexDigit, hx]; rfl
      · rw [isHexDigit, hy]; rfl
    · rfl
  · next cut =>
    obtain ⟨rfl, rfl⟩ := List.cons.inj cut
    rfl

lemma unescape_of_not_hasEscape (h : ¬ HasEscape cs) : unescape cs = encodeUtf8 cs := by
  induction cs with
  | nil => rfl
  | cons c cs ih =>
    obtain ⟨plain, rest⟩ := not_or.mp (mt hasEscape_cons.mpr h)
    rw [unescape_cons plain, ih rest]
    rfl

/-! ### Writing -/

variable {admitted : Char → Bool}

def written (admitted : Char → Bool) (c : Char) : List Char :=
  if isUnreserved c || admitted c then [c] else escapeChar c

lemma escapeExcept_escape (hx : isHexDigit x = true) (hy : isHexDigit y = true) (cs : List Char) :
    escapeExcept admitted ('%' :: x :: y :: cs) = '%' :: x :: y :: escapeExcept admitted cs := by
  rw [escapeExcept, hx, hy]
  rfl

lemma escapeExcept_cons (h : ¬ StartsEscape (c :: cs)) :
    escapeExcept admitted (c :: cs) = written admitted c ++ escapeExcept admitted cs := by
  rw [escapeExcept.eq_def]
  dsimp only
  split
  · next x y rest =>
    have none : (isHexDigit x && isHexDigit y) = false := by
      rw [← Bool.not_eq_true, Bool.and_eq_true]
      exact fun both => h ⟨x, y, both.1, both.2, rest, rfl⟩
    rw [none]
    rfl
  · rfl

/-- A digit at the start of a component was there before. -/
lemma escapeExcept_digit (hx : isHexDigit x = true)
    (h : (escapeExcept admitted cs).head? = some x) :
    ∃ rest, cs = x :: rest ∧ escapeExcept admitted cs = x :: escapeExcept admitted rest := by
  have percent : x ≠ '%' := by rintro rfl; revert hx; decide
  induction cs using escapes with
  | nil => cases h
  | escape a b cs ha hb =>
    rw [escapeExcept_escape ha hb] at h
    exact absurd (Option.some.inj h).symm percent
  | plain c cs hc =>
    rw [escapeExcept_cons hc] at h ⊢
    rw [written] at h ⊢
    split at h
    · next kept =>
      obtain rfl : c = x := Option.some.inj h
      exact ⟨cs, rfl, by rw [if_pos kept]; rfl⟩
    · obtain ⟨rest, starts⟩ := escapeChar_cut c
      rw [starts] at h
      exact absurd (Option.some.inj h).symm percent

/-- No escape is made with a character that starts none. -/
lemma not_startsEscape_escapeExcept (h : ¬ StartsEscape (c :: cs)) :
    ¬ StartsEscape (c :: escapeExcept admitted cs) := by
  intro starts
  obtain ⟨x, y, rest, hx, hy, same⟩ := starts.cut
  obtain ⟨rfl, tail⟩ := List.cons.inj same
  -- both digits were there before
  obtain ⟨cs, rfl, later⟩ := escapeExcept_digit hx (congrArg List.head? tail)
  have next : escapeExcept admitted cs = y :: rest := (List.cons.inj (later.symm.trans tail)).2
  obtain ⟨cs, rfl, -⟩ := escapeExcept_digit hy (congrArg List.head? next)
  exact h ⟨x, y, hx, hy, cs, rfl⟩

/-- **A component is read as the text from which it was written would be.** -/
theorem unescape_escapeExcept (cs : List Char) :
    unescape (escapeExcept admitted cs) = unescape cs := by
  induction cs using escapes with
  | nil => rfl
  | escape a b cs ha hb ih =>
    obtain ⟨byte, read⟩ := unescape_escape ha hb
    rw [escapeExcept_escape ha hb, read, read, ih]
  | plain c cs hc ih =>
    rw [escapeExcept_cons hc, unescape_cons hc, ← ih, written]
    split
    · exact unescape_cons (not_startsEscape_escapeExcept hc)
    · exact unescape_escapeChar c _

/-- A text is read as at least two characters less if it has an escape, and never as more. -/
lemma starts_unescape (cs : List Char) :
    Text.starts (unescape cs) ≤ cs.length ∧
      (HasEscape cs → Text.starts (unescape cs) + 2 ≤ cs.length) := by
  induction cs using escapes with
  | nil =>
    refine ⟨Nat.le_refl 0, fun h => ?_⟩
    obtain ⟨a, b, -, -, within⟩ := h
    cases List.infix_nil.mp within
  | escape a b cs ha hb ih =>
    obtain ⟨byte, read⟩ := unescape_escape ha hb
    have one : Text.starts [byte] ≤ 1 := List.countP_le_length
    have split : Text.starts (byte :: unescape cs) =
        Text.starts [byte] + Text.starts (unescape cs) := Text.starts_append [byte] _
    rw [read, split]
    simp only [List.length_cons]
    omega
  | plain c cs hc ih =>
    rw [unescape_cons hc, Text.starts_append, Text.starts_encodeChar, hasEscape_cons,
      List.length_cons]
    refine ⟨by omega, fun h => ?_⟩
    have := ih.2 (h.resolve_left hc)
    omega

/-- A text that is read as another one is at least as long, and longer if it has an escape. -/
lemma length_of_unescape (h : unescape cs = encodeUtf8 ds) :
    ds.length ≤ cs.length ∧ (HasEscape cs → ds.length < cs.length) := by
  obtain ⟨short, shorter⟩ := starts_unescape cs
  rw [h, Text.starts_encodeUtf8] at short shorter
  exact ⟨short, fun escaped => by have := shorter escaped; omega⟩

/-! ### Slashes -/

/-- A prefix without a separator ends before it. -/
lemma prefix_before {part : List Char} (h : d ∉ part) (starts : part <+: cs ++ d :: ds) :
    part <+: cs := by
  obtain within | ⟨beyond, rfl⟩ := List.prefix_or_prefix_of_prefix starts (List.prefix_append cs _)
  · exact within
  · cases beyond with
    | nil => rw [List.append_nil]
    | cons e beyond =>
      have same := List.cons_prefix_cons.mp ((List.prefix_append_right_inj cs).mp starts)
      exact absurd (List.mem_append_right cs (same.1 ▸ List.mem_cons_self ..)) h

variable (slash : admitted '/' = true)

include slash in
/-- Parts between slashes are written by themselves. -/
lemma escapeExcept_slash (cs ds : List Char) :
    escapeExcept admitted (cs ++ '/' :: ds) =
      escapeExcept admitted cs ++ '/' :: escapeExcept admitted ds := by
  induction cs using escapes with
  | nil =>
    have kept : written admitted '/' = ['/'] := by rw [written, slash, Bool.or_true]; rfl
    rw [List.nil_append, escapeExcept_cons (not_startsEscape_of_ne (by decide)), kept]
    rfl
  | escape a b cs ha hb ih =>
    rw [List.cons_append, List.cons_append, List.cons_append, escapeExcept_escape ha hb,
      escapeExcept_escape ha hb, ih]
    rfl
  | plain c cs hc ih =>
    have still : ¬ StartsEscape (c :: (cs ++ '/' :: ds)) := by
      rintro ⟨a, b, ha, hb, starts⟩
      have digits : '/' ∉ ['%', a, b] := by
        have ne {x : Char} (hx : isHexDigit x = true) : '/' ≠ x := by
          rintro rfl
          revert hx
          decide
        simp [ne ha, ne hb]
      have before : ['%', a, b] <+: c :: cs := prefix_before digits starts
      exact hc ⟨a, b, ha, hb, before⟩
    rw [List.cons_append, escapeExcept_cons still, escapeExcept_cons hc, ih, List.append_assoc]

/-- No slash is written where there was none. -/
lemma slash_notMem_escapeExcept (h : '/' ∉ cs) : '/' ∉ escapeExcept admitted cs := by
  induction cs using escapes with
  | nil => exact List.not_mem_nil
  | escape a b cs ha hb ih =>
    rw [escapeExcept_escape ha hb]
    simp only [List.mem_cons, not_or] at h ⊢
    exact ⟨h.1, h.2.1, h.2.2.1, ih h.2.2.2⟩
  | plain c cs hc ih =>
    obtain ⟨other, rest⟩ := not_or.mp (mt List.mem_cons.mpr h)
    rw [escapeExcept_cons hc, List.mem_append, not_or, written]
    refine ⟨?_, ih rest⟩
    split
    · simpa using other
    · exact fun mem => (mem_escapeChar mem).elim (by decide) (by decide)

end BlogConsole.Url
