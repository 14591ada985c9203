import BlogConsole.Proofs.Text.Split
import BlogConsole.Proofs.Url.Escape
import BlogConsole.Url.Basic

/-!
Reading forms.

A form is read from the outside to the inside: it is split at its ampersands, and every part at its
first equals sign; then a plus sign is a space, an escape is a byte, and the bytes are UTF-8. A name
or a value is written one character after the other and without any separator, so a form that is
written is read back as it was.
-/

namespace BlogConsole.Url

open Text (encodeUtf8 decodeUtf8)

variable {b : UInt8} {c d : Char} {cs ds : List Char}

/-! ### Names and values -/

/-- Plus signs as spaces. -/
def spaced (cs : List Char) : List Char := cs.map fun c => if c = '+' then ' ' else c

/-- What a name or a value in a form is read as. Its bytes have to be UTF-8. -/
def readFormText (cs : List Char) : Option (List Char) :=
  (decodeUtf8 false 0 (unescape (spaced cs))).toOption

lemma spaced_of_notMem (h : '+' ∉ cs) : spaced cs = cs := by
  refine (List.map_congr_left fun c hc => ?_).trans (List.map_id cs)
  exact if_neg fun plus : c = '+' => h (plus ▸ hc)

lemma ne_of_isUnreserved (h : isUnreserved c = true) :
    c ≠ '%' ∧ c ≠ '+' ∧ c ≠ '&' ∧ c ≠ '=' := by
  refine ⟨?_, ?_, ?_, ?_⟩ <;> rintro rfl <;> revert h <;> decide

/-- A character that is written is read back as its bytes, whatever follows it. -/
lemma unescape_formChar (c : Char) (rest : List Char) :
    unescape (spaced (formChar c ++ rest)) =
      String.utf8EncodeChar c ++ unescape (spaced rest) := by
  have apart : spaced (formChar c ++ rest) = spaced (formChar c) ++ spaced rest := List.map_append
  rw [apart, formChar]
  by_cases kept : isUnreserved c = true
  · obtain ⟨percent, plus, -⟩ := ne_of_isUnreserved kept
    rw [if_pos kept, spaced_of_notMem (by simpa using Ne.symm plus)]
    exact unescape_cons (not_startsEscape_of_ne percent)
  by_cases space : c = ' '
  · subst space
    rw [if_neg kept, if_pos rfl]
    exact unescape_cons (not_startsEscape_of_ne (by decide))
  · have unplussed : '+' ∉ escapeChar c := fun mem =>
      (mem_escapeChar mem).elim (by decide) (by decide)
    rw [if_neg kept, if_neg space, spaced_of_notMem unplussed, unescape_escapeChar]

/-- **A name or a value is read back as it was written.** -/
theorem readFormText_formText (cs : List Char) : readFormText (formText cs) = some cs := by
  have bytes : unescape (spaced (formText cs)) = encodeUtf8 cs := by
    induction cs with
    | nil => rfl
    | cons c cs ih =>
      rw [formText, List.flatMap_cons, unescape_formChar, ← formText, ih]
      rfl
  rw [readFormText, bytes, Text.decodeUtf8_encodeUtf8]
  rfl

lemma notMem_formText (cs : List Char) : '&' ∉ formText cs ∧ '=' ∉ formText cs := by
  have kinds (d : Char) (h : d ∈ formText cs) : d = '+' ∨ d = '%' ∨ isUnreserved d = true := by
    obtain ⟨c, -, hd⟩ := List.mem_flatMap.mp h
    unfold formChar at hd
    split at hd
    · next kept => exact .inr (.inr (List.mem_singleton.mp hd ▸ kept))
    · split at hd
      · exact .inl (List.mem_singleton.mp hd)
      · exact .inr (mem_escapeChar hd)
  exact ⟨fun mem => (kinds _ mem).elim (by decide) fun h => h.elim (by decide) (by decide),
    fun mem => (kinds _ mem).elim (by decide) fun h => h.elim (by decide) (by decide)⟩

/-! ### Forms -/

def readFormPair (cs : List Char) : Option (List Char × List Char) :=
  (readFormText (cs.takeWhile (· ≠ '='))).bind fun name =>
    (readFormText ((cs.dropWhile (· ≠ '=')).drop 1)).map (name, ·)

/-- What a form is read as. An empty form has no parts. -/
def readForm (cs : List Char) : Option (List (List Char × List Char)) :=
  if cs.isEmpty then some [] else (Text.splitWhere (· = '&') cs).mapM readFormPair

lemma readFormPair_formPair (pair : List Char × List Char) :
    readFormPair (formPair pair) = some pair := by
  obtain ⟨name, value⟩ := pair
  have unequal : ∀ c ∈ formText name, decide (c ≠ '=') = true := fun c hc =>
    decide_eq_true fun same => (notMem_formText name).2 (same ▸ hc)
  have first : (formPair (name, value)).takeWhile (· ≠ '=') = formText name := by
    rw [formPair, List.takeWhile_append_of_pos unequal, List.takeWhile_cons_of_neg (by decide),
      List.append_nil]
  have second : (formPair (name, value)).dropWhile (· ≠ '=') = '=' :: formText value := by
    rw [formPair, List.dropWhile_append_of_pos unequal, List.dropWhile_cons_of_neg (by decide)]
  rw [readFormPair, first, second, readFormText_formText, List.drop_one, List.tail_cons,
    readFormText_formText]
  rfl

lemma notMem_formPair (pair : List Char × List Char) : '&' ∉ formPair pair := by
  rw [formPair, List.mem_append, List.mem_cons, not_or, not_or]
  exact ⟨(notMem_formText pair.1).1, by decide, (notMem_formText pair.2).1⟩

/-- **A form is read back as it was written.** -/
theorem readForm_form (pairs : List (List Char × List Char)) :
    readForm (form pairs) = some pairs := by
  cases pairs with
  | nil => rfl
  | cons pair pairs =>
    have parts : Text.splitWhere (· = '&') (form (pair :: pairs)) =
        (pair :: pairs).map formPair := by
      rw [Text.splitWhere_eq_splitOn]
      refine List.splitOn_intercalate '&' (fun part hpart => ?_) (by simp)
      obtain ⟨p, -, rfl⟩ := List.mem_map.mp hpart
      exact notMem_formPair p
    have filled : (form (pair :: pairs)).isEmpty = false := by
      refine List.isEmpty_eq_false_iff.mpr fun none => ?_
      rw [none] at parts
      simp [formPair] at parts
    have each (ps : List (List Char × List Char)) :
        (ps.map formPair).mapM readFormPair = some ps := by
      induction ps with
      | nil => rfl
      | cons p ps ih => rw [List.map_cons, List.mapM_cons, readFormPair_formPair, ih]; rfl
    rw [readForm, filled, parts, each]
    rfl

/-- The parameters of a URL: what its query is read as. Without a query there are none. -/
def parameters? (u : Url) : Option (List (String × String)) :=
  match u.query with
  | none => some []
  | some query => (readForm query).map (List.map fun p => (String.ofList p.1, String.ofList p.2))

end BlogConsole.Url
