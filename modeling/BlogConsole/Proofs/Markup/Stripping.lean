import BlogConsole.Markup
import Mathlib.Data.List.DropRight
import Mathlib.Data.List.Infix
import Mathlib.Tactic.Common

/-!
What stripping leaves of a marked-up text.

A text is made of four kinds of pieces: a character other than `<`, a `<` with a `>` right behind
it, a tag, and a `<` that no `>` follows. The scan deletes the tags and keeps the other pieces. None
of these can begin a tag afterwards, whatever comes to stand behind it, so one scan is enough.
-/

namespace BlogConsole

/-! ### Trimming -/

namespace Text

variable {cs : List Char}

lemma trim_infix (cs : List Char) : trim cs <:+: cs :=
  (List.rdropWhile_prefix isBlank _).isInfix.trans (List.dropWhile_suffix isBlank).isInfix

lemma isBlank_head?_trim {c : Char} (h : (trim cs).head? = some c) : isBlank c = false := by
  have first : (cs.dropWhile isBlank).head? = some c := by
    obtain ⟨rest, hrest⟩ := List.rdropWhile_prefix isBlank (cs.dropWhile isBlank)
    rw [← hrest, List.head?_append]
    exact Option.or_eq_some_iff.mpr (.inl h)
  have unblank := List.head?_dropWhile_not isBlank cs
  rwa [first] at unblank

lemma isBlank_getLast?_trim {c : Char} (h : (trim cs).getLast? = some c) : isBlank c = false := by
  have filled : trim cs ≠ [] := fun none => by rw [none] at h; cases h
  rw [List.getLast?_eq_some_getLast filled] at h
  have unblank := List.rdropWhile_last_not isBlank (cs.dropWhile isBlank) filled
  rw [← Option.some.inj h]
  exact Bool.eq_false_iff.mpr unblank

lemma trim_trim (cs : List Char) : trim (trim cs) = trim cs := by
  have front : (trim cs).dropWhile isBlank = trim cs := by
    cases h : trim cs with
    | nil => rfl
    | cons c rest =>
      have unblank : isBlank c = false := isBlank_head?_trim (by rw [h]; rfl)
      simp [unblank]
  calc trim (trim cs) = (trim cs).rdropWhile isBlank := congrArg (List.rdropWhile isBlank) front
    _ = trim cs := List.rdropWhile_idempotent isBlank (cs.dropWhile isBlank)

end Text

namespace Markup

/-! ### Tags -/

/-- A tag: a `<`, one or more characters other than `>`, and a `>`. -/
def IsTag (cs : List Char) : Prop := ∃ body, body ≠ [] ∧ '>' ∉ body ∧ cs = '<' :: (body ++ ['>'])

def StartsTag (cs : List Char) : Prop := ∃ tag, IsTag tag ∧ tag <+: cs

def HasTag (cs : List Char) : Prop := ∃ tag, IsTag tag ∧ tag <:+: cs

variable {c : Char} {cs tag rest before plain : List Char}

lemma IsTag.close_mem (h : IsTag tag) : '>' ∈ tag := by
  obtain ⟨body, -, -, rfl⟩ := h
  simp

lemma IsTag.startsTag (h : IsTag tag) (rest : List Char) : StartsTag (tag ++ rest) :=
  ⟨tag, h, List.prefix_append tag rest⟩

lemma hasTag_cons : HasTag (c :: cs) ↔ StartsTag (c :: cs) ∨ HasTag cs := by
  simp only [HasTag, StartsTag, List.infix_cons_iff, and_or_left, exists_or]

lemma HasTag.mono {ds : List Char} (h : HasTag cs) (hd : cs <:+: ds) : HasTag ds := by
  obtain ⟨tag, ht, within⟩ := h
  exact ⟨tag, ht, within.trans hd⟩

lemma not_hasTag_of_unclosed (h : '>' ∉ cs) : ¬ HasTag cs := by
  rintro ⟨tag, ht, within⟩
  exact h (within.mem ht.close_mem)

lemma not_startsTag_cons (h : c ≠ '<') : ¬ StartsTag (c :: cs) := by
  rintro ⟨_, ⟨body, -, -, rfl⟩, starts⟩
  exact h (List.cons_prefix_cons.mp starts).1.symm

lemma not_startsTag_pair : ¬ StartsTag ('<' :: '>' :: cs) := by
  rintro ⟨_, ⟨body, filled, unclosed, rfl⟩, starts⟩
  obtain ⟨c, body, rfl⟩ := List.exists_cons_of_ne_nil filled
  obtain ⟨-, starts⟩ := List.cons_prefix_cons.mp starts
  obtain rfl := (List.cons_prefix_cons.mp starts).1
  exact unclosed (List.mem_cons_self ..)

/-! ### Pieces -/

/-- A text is made of pieces, and what holds of the empty text and of a text with any piece before
it holds of every text. -/
theorem pieces {motive : List Char → Prop} (nil : motive [])
    (other : ∀ c cs, c ≠ '<' → motive cs → motive (c :: cs))
    (pair : ∀ cs, motive cs → motive ('<' :: '>' :: cs))
    (tag : ∀ tag cs, IsTag tag → motive cs → motive (tag ++ cs))
    (unclosed : ∀ cs, '>' ∉ cs → motive ('<' :: cs)) (cs : List Char) : motive cs := by
  induction n : cs.length using Nat.strong_induction_on generalizing cs with
  | _ n ih =>
    subst n
    rcases cs with _ | ⟨c, cs⟩
    · exact nil
    by_cases opens : c = '<'
    · subst opens
      by_cases closed : '>' ∈ cs
      · obtain ⟨body, rest, rfl, first⟩ := List.eq_append_cons_of_mem closed
        have later : motive rest := ih rest.length (by simp; omega) rest rfl
        by_cases empty : body = []
        · subst empty
          exact pair rest later
        · have whole : '<' :: (body ++ '>' :: rest) = '<' :: (body ++ ['>']) ++ rest := by simp
          rw [whole]
          exact tag _ rest ⟨body, empty, first, rfl⟩ later
      · exact unclosed cs closed
    · exact other c cs opens (ih cs.length (by simp) cs rfl)

lemma scan_held {body : List Char} (h : '>' ∉ body) (held cs : List Char) :
    scan (some held) (body ++ cs) = scan (some (body.reverse ++ held)) cs := by
  induction body generalizing held with
  | nil => rfl
  | cons c body ih =>
    obtain ⟨hc, hbody⟩ := not_or.mp (mt List.mem_cons.mpr h)
    rw [List.cons_append, scan, if_neg (Ne.symm hc), ih hbody]
    simp

lemma dropTags_cons (h : c ≠ '<') (cs : List Char) : dropTags (c :: cs) = c :: dropTags cs :=
  scan_plain h cs

lemma dropTags_pair (cs : List Char) : dropTags ('<' :: '>' :: cs) = '<' :: '>' :: dropTags cs := by
  simp [dropTags, scan]

lemma dropTags_tag (h : IsTag tag) (cs : List Char) : dropTags (tag ++ cs) = dropTags cs := by
  obtain ⟨body, filled, unclosed, rfl⟩ := h
  have held : (body.reverse ++ []).isEmpty = false := by simpa using filled
  calc dropTags ('<' :: (body ++ ['>']) ++ cs)
      = scan (some []) (body ++ '>' :: cs) := by simp [dropTags, scan_open]
    _ = scan (some (body.reverse ++ [])) ('>' :: cs) := scan_held unclosed [] _
    _ = dropTags cs := by rw [scan, if_pos rfl, held]; rfl

lemma dropTags_unclosed (h : '>' ∉ cs) : dropTags ('<' :: cs) = '<' :: cs := by
  have whole := scan_held h [] []
  rw [List.append_nil] at whole
  rw [dropTags, scan_open, whole]
  simp

/-! ### What the scan leaves -/

/-- **No tag is left.** -/
theorem not_hasTag_dropTags (cs : List Char) : ¬ HasTag (dropTags cs) := by
  induction cs using pieces with
  | nil => exact not_hasTag_of_unclosed List.not_mem_nil
  | other c cs hc ih =>
    rw [dropTags_cons hc, hasTag_cons]
    exact not_or.mpr ⟨not_startsTag_cons hc, ih⟩
  | pair cs ih =>
    rw [dropTags_pair, hasTag_cons, hasTag_cons]
    exact not_or.mpr ⟨not_startsTag_pair, not_or.mpr ⟨not_startsTag_cons (by decide), ih⟩⟩
  | tag tag cs ht ih => rwa [dropTags_tag ht]
  | unclosed cs h =>
    rw [dropTags_unclosed h]
    exact not_hasTag_of_unclosed (by simpa using h)

lemma dropTags_of_not_hasTag (h : ¬ HasTag cs) : dropTags cs = cs := by
  induction cs using pieces with
  | nil => rfl
  | other c cs hc ih =>
    rw [hasTag_cons] at h
    rw [dropTags_cons hc, ih (not_or.mp h).2]
  | pair cs ih =>
    rw [hasTag_cons, hasTag_cons] at h
    rw [dropTags_pair, ih (not_or.mp (not_or.mp h).2).2]
  | tag tag cs ht =>
    exact absurd ⟨tag, ht, (List.prefix_append tag cs).isInfix⟩ h
  | unclosed cs closed => exact dropTags_unclosed closed

/-- The leftmost tag of a text goes away, and the scan goes on behind it. -/
lemma dropTags_leftmost (ht : IsTag tag)
    (leftmost : ∀ later, later ≠ [] → later <:+ before → ¬ StartsTag (later ++ (tag ++ rest))) :
    dropTags (before ++ (tag ++ rest)) = before ++ dropTags rest := by
  induction before using pieces with
  | nil => exact dropTags_tag ht rest
  | other c cs hc ih =>
    rw [List.cons_append, dropTags_cons hc,
      ih fun later filled ends => leftmost later filled (ends.trans (List.suffix_cons c cs))]
    rfl
  | pair cs ih =>
    have shorter : cs <:+ '<' :: '>' :: cs := List.suffix_append ['<', '>'] cs
    rw [List.cons_append, List.cons_append, dropTags_pair,
      ih fun later filled ends => leftmost later filled (ends.trans shorter)]
    rfl
  | tag first cs hfirst =>
    have filled : first ++ cs ≠ [] := by
      obtain ⟨body, -, -, rfl⟩ := hfirst
      simp
    refine absurd ?_ (leftmost _ filled List.suffix_rfl)
    rw [List.append_assoc]
    exact hfirst.startsTag _
  | unclosed cs h =>
    -- the tag behind the `<` closes it
    obtain ⟨body, -, unclosed, rfl⟩ := ht
    have opened : IsTag ('<' :: ((cs ++ '<' :: body) ++ ['>'])) :=
      ⟨_, by simp, by simp [h, unclosed], rfl⟩
    refine absurd ?_ (leftmost ('<' :: cs) (List.cons_ne_nil _ _) List.suffix_rfl)
    have whole : '<' :: cs ++ ('<' :: (body ++ ['>']) ++ rest) =
        '<' :: ((cs ++ '<' :: body) ++ ['>']) ++ rest := by simp
    rw [whole]
    exact opened.startsTag rest

/-! ### Deletion -/

/-- A text, and what is left of it when its tags are deleted from the left to the right. Where a tag
starts no earlier than behind `before`, this part is kept, the tag is deleted, and the rest follows.
A text without tags is kept. -/
inductive Deleted : List Char → List Char → Prop
  | none {cs : List Char} : ¬ HasTag cs → Deleted cs cs
  | leftmost {before tag rest plain : List Char} :
      IsTag tag →
      (∀ later, later ≠ [] → later <:+ before → ¬ StartsTag (later ++ (tag ++ rest))) →
      Deleted rest plain → Deleted (before ++ (tag ++ rest)) (before ++ plain)

/-- A character with which no tag starts is kept. -/
lemma Deleted.cons (hc : ¬ StartsTag (c :: cs)) (h : Deleted cs plain) :
    Deleted (c :: cs) (c :: plain) := by
  cases h with
  | none h => exact .none fun has => (hasTag_cons.mp has).elim hc h
  | @leftmost before tag rest plain ht leftmost hrest =>
    refine @Deleted.leftmost (c :: before) _ _ _ ht (fun later filled ends => ?_) hrest
    obtain rfl | ends := List.suffix_cons_iff.mp ends
    · exact hc
    · exact leftmost later filled ends

lemma deleted_dropTags (cs : List Char) : Deleted cs (dropTags cs) := by
  induction cs using pieces with
  | nil => exact .none (not_hasTag_of_unclosed List.not_mem_nil)
  | other c cs hc ih =>
    rw [dropTags_cons hc]
    exact ih.cons (not_startsTag_cons hc)
  | pair cs ih =>
    rw [dropTags_pair]
    exact (ih.cons (not_startsTag_cons (by decide))).cons not_startsTag_pair
  | tag tag cs ht ih =>
    rw [dropTags_tag ht]
    refine @Deleted.leftmost [] _ _ _ ht (fun later filled ends => ?_) ih
    exact absurd (List.suffix_nil.mp ends) filled
  | unclosed cs h =>
    rw [dropTags_unclosed h]
    exact .none (not_hasTag_of_unclosed (by simpa using h))

/-- **The scan deletes the leftmost tags, and nothing else.** -/
theorem deleted_iff : Deleted cs plain ↔ plain = dropTags cs := by
  constructor
  · intro h
    induction h with
    | none h => exact (dropTags_of_not_hasTag h).symm
    | leftmost ht leftmost _ ih => rw [dropTags_leftmost ht leftmost, ih]
  · rintro rfl
    exact deleted_dropTags cs

/-- **Stripping leaves the text without its tags.** Of any text, the leftmost tags are deleted one
after the other, every other character is kept in its place, and blanks at the two ends are dropped.
What is left has no tag and no blank at its ends, and stripping it again changes nothing. A text
without tags is only trimmed. -/
theorem strip_plain (s : String) :
    (∀ plain, Deleted s.toList plain → (strip s).toList = Text.trim plain) ∧
      (∃ plain, Deleted s.toList plain) ∧
      ¬ HasTag (strip s).toList ∧
      (∀ c, (strip s).toList.head? = some c → Text.isBlank c = false) ∧
      (∀ c, (strip s).toList.getLast? = some c → Text.isBlank c = false) ∧
      strip (strip s) = strip s ∧
      (¬ HasTag s.toList → (strip s).toList = Text.trim s.toList) := by
  have text : (strip s).toList = Text.trim (dropTags s.toList) := String.toList_ofList
  have clean : ¬ HasTag (strip s).toList := by
    rw [text]
    exact fun has => not_hasTag_dropTags s.toList (has.mono (Text.trim_infix _))
  refine ⟨fun plain h => ?_, ⟨_, deleted_dropTags s.toList⟩, clean, fun c h => ?_, fun c h => ?_,
    ?_, fun h => ?_⟩
  · rw [text, deleted_iff.mp h]
  · rw [text] at h
    exact Text.isBlank_head?_trim h
  · rw [text] at h
    exact Text.isBlank_getLast?_trim h
  · have again : strip (strip s) = String.ofList (Text.trim (dropTags (strip s).toList)) := rfl
    rw [again, dropTags_of_not_hasTag clean, text, Text.trim_trim]
    rfl
  · rw [text, dropTags_of_not_hasTag h]

end Markup

end BlogConsole
