import BlogConsole.Json.Printer
import BlogConsole.Post.Wire
import BlogConsole.Proofs.Timestamp.RoundTrip
import Mathlib.Tactic.SplitIfs

/-!
What can be written.

A printed value holds the characters of its strings and otherwise nothing but ASCII, so it has a
lone surrogate if one of the strings has. The strings of a post are its own texts, those of its
author, and its timestamps, which are ASCII.
-/

namespace BlogConsole

open Text (Writable)

/-! ### Printed values -/

namespace Json

variable {c : Char} {cs : List Char} {v : Json} {vs : List Json} {ms : List (String × Json)}

lemma writable_escapeChar : Writable (escapeChar c) ↔ Text.isSurrogate c = false := by
  have small : ∀ n < 0x20, Text.Ascii (Text.hexPadded 4 n) := by decide
  have ascii {ds : List Char} (spelled : Text.Ascii ds) (h : Text.Ascii [c]) :
      Writable ds ↔ Text.isSurrogate c = false :=
    iff_of_true spelled.writable (h.writable c List.mem_cons_self)
  unfold escapeChar
  split_ifs with _ _ _ _ _ _ _ control
  iterate 7 exact ascii (by decide) (by subst_vars; decide)
  · refine ascii ?_ (by simp; omega)
    exact Text.ascii_cons.mpr ⟨by decide, Text.ascii_cons.mpr ⟨by decide, small _ control⟩⟩
  · exact List.forall_mem_singleton

lemma writable_printString : Writable (printString cs) ↔ Writable cs := by
  have quote : Writable ['"'] := by decide
  have escaped : Writable (cs.flatMap escapeChar) ↔ Writable cs := by
    induction cs with
    | nil => rfl
    | cons c cs ih =>
      simp only [List.flatMap_cons, Text.writable_append, Text.writable_cons, writable_escapeChar,
        ih]
  rw [printString, List.cons_append, ← List.singleton_append, Text.writable_append,
    Text.writable_append, escaped]
  exact ⟨fun h => h.2.1, fun h => ⟨quote, h, quote⟩⟩

lemma writable_printItems :
    Writable (printItems vs) ↔ ∀ v ∈ vs, Writable (print v) := by
  have comma : Text.isSurrogate ',' = false := by decide
  induction vs with
  | nil => exact iff_of_true (by decide) (List.forall_mem_nil _)
  | cons v vs ih =>
    simp only [printItems, List.cons_append, Text.writable_cons, Text.writable_append, ih,
      List.forall_mem_cons, comma, true_and]

lemma writable_printMembers :
    Writable (printMembers ms) ↔ ∀ m ∈ ms, Writable m.1.toList ∧ Writable (print m.2) := by
  have marks : Text.isSurrogate ',' = false ∧ Text.isSurrogate ':' = false := by decide
  induction ms with
  | nil => exact iff_of_true (by decide) (List.forall_mem_nil _)
  | cons m ms ih =>
    simp only [printMembers, List.cons_append, Text.writable_cons, Text.writable_append, ih,
      List.forall_mem_cons, marks, writable_printString, true_and, and_assoc]

lemma writable_print_array :
    Writable (print (.array vs)) ↔ ∀ v ∈ vs, Writable (print v) := by
  have bracket : Text.isSurrogate '[' = false := by decide
  cases vs with
  | nil => exact iff_of_true (by decide) (List.forall_mem_nil _)
  | cons v vs =>
    simp only [print, List.cons_append, Text.writable_cons, Text.writable_append,
      writable_printItems, List.forall_mem_cons, bracket, true_and]

lemma writable_print_object :
    Writable (print (.object ms)) ↔ ∀ m ∈ ms, Writable m.1.toList ∧ Writable (print m.2) := by
  have marks : Text.isSurrogate '\x7b' = false ∧ Text.isSurrogate ':' = false := by decide
  cases ms with
  | nil => exact iff_of_true (by decide) (List.forall_mem_nil _)
  | cons m ms =>
    simp only [print, List.cons_append, Text.writable_cons, Text.writable_append,
      writable_printMembers, List.forall_mem_cons, marks, writable_printString, true_and, and_assoc]

lemma writable_members {fields : List (String × Option Json)}
    (names : ∀ f ∈ fields, Writable f.1.toList) :
    Writable (print (.object (WireForm.wire.members fields))) ↔
      ∀ f ∈ fields, ∀ v ∈ f.2, Writable (print v) := by
  rw [writable_print_object]
  constructor
  · intro h f hf v hv
    refine (h (f.1, v) (List.mem_filterMap.mpr ⟨f, hf, ?_⟩)).2
    rw [hv]
    rfl
  · intro h m hm
    obtain ⟨f, hf, found⟩ := List.mem_filterMap.mp hm
    obtain ⟨v, hv, rfl⟩ := Option.map_eq_some_iff.mp found
    exact ⟨names f hf, h f hf v hv⟩

end Json

/-! ### Posts -/

def Author.texts (a : Author) : List String := [a.id, a.displayName, a.url].flatMap Option.toList

/-- The texts of a post, its author's among them. -/
def Post.texts (p : Post) : List String :=
  [p.id, p.title, p.content, p.url].flatMap Option.toList ++ p.labels.getD [] ++
    (p.author.map Author.texts).getD []

lemma writable_optional (o : Option String) :
    (∀ v ∈ o.map Json.string, Writable (Json.print v)) ↔ ∀ s ∈ o.toList, Writable s.toList := by
  cases o with
  | none => simp
  | some s => simp [Json.print, Json.writable_printString]

lemma Author.writable_toJson (a : Author) :
    Writable (a.toJson .wire).print ↔ ∀ s ∈ a.texts, Writable s.toList := by
  have names : ∀ f ∈ a.fields .wire, Writable f.1.toList := by
    simp only [fields, List.forall_mem_cons]
    exact ⟨by decide, by decide, by decide, List.forall_mem_nil _⟩
  rw [toJson, Json.writable_members names]
  simp only [fields, texts, List.forall_mem_cons, List.flatMap_cons, List.flatMap_nil,
    List.forall_mem_append, List.not_mem_nil, false_imp_iff, implies_true, writable_optional]

/-- **A post can be written if its texts have no lone surrogates.** -/
theorem Post.writable_toWire (p : Post) :
    Writable p.toWire.print ↔ ∀ s ∈ p.texts, Writable s.toList := by
  have names : ∀ f ∈ p.fields .wire, Writable f.1.toList := by
    simp only [fields, List.forall_mem_cons]
    exact ⟨by decide, by decide, by decide, by decide, by decide, by decide, by decide, by decide,
      List.forall_mem_nil _⟩
  have date (o : Option Timestamp) :
      (∀ v ∈ o.map fun t => Json.string t.text, Writable v.print) ↔ True := by
    refine iff_true_intro fun v hv => ?_
    obtain ⟨t, -, rfl⟩ := Option.map_eq_some_iff.mp hv
    rw [Json.print, Json.writable_printString, Timestamp.text, String.toList_ofList]
    exact (Timestamp.ascii_write t).writable
  have labels : (∀ v ∈ p.labels.map fun ls => Json.array (ls.map .string), Writable v.print) ↔
      ∀ s ∈ p.labels.getD [], Writable s.toList := by
    cases p.labels with
    | none => simp
    | some ls => simp [Json.writable_print_array, Json.print, Json.writable_printString]
  have author : (∀ v ∈ p.author.map (Author.toJson .wire), Writable v.print) ↔
      ∀ s ∈ (p.author.map Author.texts).getD [], Writable s.toList := by
    cases p.author with
    | none => simp
    | some a => simp [Author.writable_toJson]
  rw [toWire, toJson, Json.writable_members names]
  simp only [fields, texts, List.forall_mem_cons, List.flatMap_cons, List.flatMap_nil,
    List.forall_mem_append, List.not_mem_nil, false_imp_iff, implies_true, writable_optional, date,
    labels, author, true_and, and_true, and_assoc]

end BlogConsole
