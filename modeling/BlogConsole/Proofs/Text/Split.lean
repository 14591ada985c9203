import BlogConsole.Text.Blank
import Mathlib.Tactic.Common

/-!
Splitting a text at a separator, in the words of the library for lists.
-/

namespace BlogConsole.Text

lemma splitWhere_eq_splitOnP (sep : Char → Bool) (cs : List Char) :
    splitWhere sep cs = cs.splitOnP sep := by
  induction cs with
  | nil => rfl
  | cons c cs ih =>
    rw [splitWhere, ih, List.splitOnP_cons_eq_if_modifyHead]
    split
    · next h => exact absurd h (List.splitOnP_ne_nil sep cs)
    · next part parts h => rw [h, List.modifyHead_cons]

lemma splitWhere_eq_splitOn (sep : Char) (cs : List Char) :
    splitWhere (· = sep) cs = cs.splitOn sep := by
  rw [splitWhere_eq_splitOnP, List.splitOn_eq_splitOnP]
  rfl

/-- The parts before a separator, and the parts behind it. -/
lemma splitOn_append_cons (sep : Char) (cs ds : List Char) :
    (cs ++ sep :: ds).splitOn sep = cs.splitOn sep ++ ds.splitOn sep := by
  simp only [List.splitOn_eq_splitOnP]
  exact List.splitOnP_append_cons cs ds (beq_self_eq_true sep)

lemma splitOn_of_notMem {sep : Char} {cs : List Char} (h : sep ∉ cs) : cs.splitOn sep = [cs] := by
  rw [List.splitOn_eq_splitOnP]
  refine List.splitOnP_eq_singleton fun c hc => ?_
  simpa using fun same : c = sep => h (same ▸ hc)

lemma notMem_of_mem_splitOn {sep : Char} {cs part : List Char} (h : part ∈ cs.splitOn sep) :
    sep ∉ part := by
  induction n : cs.length using Nat.strongRecOn generalizing cs with
  | _ n ih =>
    subst n
    by_cases mem : sep ∈ cs
    · obtain ⟨before, after, rfl, first⟩ := List.eq_append_cons_of_mem mem
      rw [splitOn_append_cons, splitOn_of_notMem first, List.singleton_append, List.mem_cons] at h
      rcases h with rfl | h
      · exact first
      · exact ih after.length (by simp; omega) h rfl
    · rw [splitOn_of_notMem mem, List.mem_singleton] at h
      exact h ▸ mem

/-- Parts with one more part behind them are followed by a separator, unless there are none. -/
lemma intercalate_append (sep : Char) (front : List (List Char)) {parts : List (List Char)}
    (h : parts ≠ []) :
    [sep].intercalate (front ++ parts) =
      [sep].intercalate (front ++ [[]]) ++ [sep].intercalate parts := by
  have cons (part : List Char) {more : List (List Char)} (hm : more ≠ []) :
      [sep].intercalate (part :: more) = part ++ sep :: [sep].intercalate more := by
    obtain ⟨next, more, rfl⟩ := List.exists_cons_of_ne_nil hm
    rw [List.intercalate_cons_cons, List.append_assoc]
    rfl
  induction front with
  | nil => rfl
  | cons part front ih =>
    rw [List.cons_append, List.cons_append, cons part (by simp [h]), cons part (by simp), ih,
      List.append_assoc]
    rfl

end BlogConsole.Text
