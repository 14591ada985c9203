import BlogConsole.Json.Parser
import BlogConsole.Json.Printer
import Mathlib.Tactic.Common

/-!
Printed JSON is read back: values without numbers, nested at most as deep as reading goes.

The text of a value shows by its first character what kind of value it is, and every character of a
string is printed so that reading takes it as one. So reading takes from a longer text what was
printed and leaves the rest.
-/

namespace BlogConsole.Json

variable {start fuel depth : Nat} {c : Char} {cs rest : List Char}

/-! ### Strings -/

lemma unit?_append {ds : List Char} {n : Nat} (h : unit? ds = some (n, [])) :
    unit? (ds ++ rest) = some (n, rest) := by
  match ds, h with
  | a :: b :: c :: d :: ds, h =>
    simp only [List.cons_append, unit?] at h ⊢
    split at h
    · cases h
      rfl
    · cases h

lemma unicodeEscape_control (h : c.toNat < 0x20) (more : rest ≠ []) :
    unicodeEscape (Text.hexPadded 4 c.toNat ++ rest) = .ok (c, rest) := by
  have spelled : ∀ n < 0x20, unit? (Text.hexPadded 4 n) = some (n, []) := by decide
  have high : Text.isHighSurrogate c.toNat = false := by simp [Text.isHighSurrogate]; omega
  have low : Text.isLowSurrogate c.toNat = false := by simp [Text.isLowSurrogate]; omega
  have self : Text.ofUnit c.toNat = c := by
    rw [Text.ofUnit, high, low]
    exact Char.ofNat_toNat c
  obtain ⟨d, ds, rfl⟩ := List.exists_cons_of_ne_nil more
  simp only [unicodeEscape, unit?_append (spelled _ h)]
  split
  · rw [if_neg (by simp [high]), self]
  · rw [self]

lemma stringBody_escape {e d : Char} (h : escaped? e = some d) (letter : e ≠ 'u') :
    stringBody start (fuel + 1) ('\\' :: e :: rest) =
      (stringBody start fuel rest).map fun r => (d :: r.1, r.2) := by
  rw [stringBody.eq_def]
  dsimp only
  rw [if_neg (by decide), if_pos rfl, if_neg letter, h]

lemma stringBody_plain (quote : c ≠ '"') (backslash : c ≠ '\\') (control : ¬ c.toNat < 0x20) :
    stringBody start (fuel + 1) (c :: rest) =
      (stringBody start fuel rest).map fun r => (c :: r.1, r.2) := by
  rw [stringBody.eq_def]
  dsimp only
  rw [if_neg quote, if_neg backslash, if_neg control]

/-- A printed character of a string is read as one. -/
lemma stringBody_escapeChar (c : Char) (more : rest ≠ []) :
    stringBody start (fuel + 1) (escapeChar c ++ rest) =
      (stringBody start fuel rest).map fun r => (c :: r.1, r.2) := by
  unfold escapeChar
  split_ifs with quote backslash newline carriage tab back feed control
  · subst quote
    exact stringBody_escape rfl (by decide)
  · subst backslash
    exact stringBody_escape rfl (by decide)
  · subst newline
    exact stringBody_escape rfl (by decide)
  · subst carriage
    exact stringBody_escape rfl (by decide)
  · subst tab
    exact stringBody_escape rfl (by decide)
  · subst back
    exact stringBody_escape rfl (by decide)
  · subst feed
    exact stringBody_escape rfl (by decide)
  · rw [List.cons_append, List.cons_append, stringBody, if_neg (by decide), if_pos rfl, if_pos rfl,
      unicodeEscape_control control more]
  · exact stringBody_plain quote backslash control

lemma stringBody_escaped (h : cs.length < fuel) :
    stringBody start fuel (cs.flatMap escapeChar ++ '"' :: rest) = .ok (cs, rest) := by
  induction cs generalizing fuel with
  | nil =>
    obtain ⟨fuel, rfl⟩ := Nat.exists_eq_add_one.mpr h
    rfl
  | cons c cs ih =>
    obtain ⟨fuel, rfl⟩ := Nat.exists_eq_add_one.mpr (Nat.lt_of_le_of_lt (Nat.zero_le _) h)
    rw [List.flatMap_cons, List.append_assoc, stringBody_escapeChar c (by simp),
      ih (Nat.lt_of_succ_lt_succ h)]
    rfl

lemma escapeChar_ne_nil (c : Char) : escapeChar c ≠ [] := by
  unfold escapeChar
  split_ifs <;> exact List.cons_ne_nil _ _

lemma length_le_escaped (cs : List Char) : cs.length ≤ (cs.flatMap escapeChar).length := by
  induction cs with
  | nil => exact Nat.le_refl _
  | cons c cs ih =>
    have := List.length_pos_iff.mpr (escapeChar_ne_nil c)
    rw [List.flatMap_cons, List.length_append, List.length_cons]
    omega

lemma stringTail_escaped (s : String) :
    stringTail (s.toList.flatMap escapeChar ++ '"' :: rest) = .ok (s, rest) := by
  have enough := length_le_escaped s.toList
  rw [stringTail, stringBody_escaped (by rw [List.length_append, List.length_cons]; omega)]
  exact congrArg (fun t => Except.ok (t, rest)) String.ofList_toList

/-! ### Values -/

/-- A value that reading takes from its printed form: one without numbers, nested at most so deep,
in whose objects no name occurs twice. -/
inductive Legible : Nat → Json → Prop
  | null {depth : Nat} : Legible depth null
  | bool {depth : Nat} (b : Bool) : Legible depth (bool b)
  | string {depth : Nat} (s : String) : Legible depth (string s)
  | array {depth : Nat} {vs : List Json} (items : ∀ v ∈ vs, Legible depth v) :
    Legible (depth + 1) (array vs)
  | object {depth : Nat} {ms : List (String × Json)} (distinct : (ms.map Prod.fst).Nodup)
    (members : ∀ m ∈ ms, Legible depth m.2) : Legible (depth + 1) (object ms)

variable {v : Json} {vs : List Json} {ms : List (String × Json)}

lemma putMember_new {name : String} (v : Json) (h : name ∉ ms.map Prod.fst) :
    putMember name v ms = ms ++ [(name, v)] := by
  induction ms with
  | nil => rfl
  | cons m ms ih =>
    rw [List.map_cons, List.mem_cons, not_or] at h
    rw [putMember, if_neg (Ne.symm h.1), ih h.2, List.cons_append]

lemma foldl_putMember (acc : List (String × Json))
    (distinct : ((acc ++ ms).map Prod.fst).Nodup) :
    ms.foldl (fun acc m => putMember m.1 m.2 acc) acc = acc ++ ms := by
  induction ms generalizing acc with
  | nil => exact (List.append_nil acc).symm
  | cons m ms ih =>
    have new : m.1 ∉ acc.map Prod.fst := by
      rw [List.map_append, List.map_cons] at distinct
      exact fun h => (List.nodup_append.mp distinct).2.2 _ h _ List.mem_cons_self rfl
    rw [List.append_cons] at distinct
    rw [List.foldl_cons, putMember_new m.2 new, ih _ distinct, List.append_assoc]
    rfl

lemma ofMembers_distinct (distinct : (ms.map Prod.fst).Nodup) : ofMembers ms = object ms :=
  congrArg object (foldl_putMember [] distinct)

/-- A printed value starts with a character that is no blank and closes nothing. -/
lemma print_head (h : Legible depth v) :
    ∃ c cs, print v = c :: cs ∧ isSpace c = false ∧ c ≠ ']' := by
  cases h with
  | null => exact ⟨'n', _, rfl, rfl, by decide⟩
  | bool b => cases b <;> exact ⟨_, _, rfl, rfl, by decide⟩
  | string s => exact ⟨'"', _, rfl, rfl, by decide⟩
  | @array _ vs _ =>
    cases vs with
    | nil => exact ⟨'[', _, rfl, rfl, by decide⟩
    | cons v vs => exact ⟨'[', _, rfl, rfl, by decide⟩
  | @object _ ms _ _ =>
    cases ms with
    | nil => exact ⟨'\x7b', _, rfl, rfl, by decide⟩
    | cons m ms => exact ⟨'\x7b', _, rfl, rfl, by decide⟩

lemma skipSpaces_print (h : Legible depth v) : skipSpaces (print v ++ rest) = print v ++ rest := by
  obtain ⟨c, cs, text, dark, -⟩ := print_head h
  rw [text, List.cons_append, skipSpaces, List.dropWhile_cons_of_neg (by rw [dark]; decide)]

/-- Reading takes a value from its printed form, whatever follows. -/
def Taken (depth : Nat) (v : Json) : Prop :=
  ∀ fuel rest, 2 * (print v).length ≤ fuel → value fuel depth (print v ++ rest) = .ok (v, rest)

/-- Items each of which is taken are taken together. -/
lemma items_print (legible : ∀ w ∈ v :: vs, Legible depth w) (taken : ∀ w ∈ v :: vs, Taken depth w)
    (enough : 2 * (print v ++ printItems vs).length ≤ fuel) :
    items fuel depth (print v ++ printItems vs ++ rest) = .ok (v :: vs, rest) := by
  induction vs generalizing v fuel with
  | nil =>
    rw [printItems, List.length_append, List.length_singleton] at enough
    obtain ⟨fuel, rfl⟩ := Nat.exists_eq_add_one.mpr (show 0 < fuel by omega)
    rw [printItems, List.append_assoc, items, taken v List.mem_cons_self _ _ (by omega)]
    rfl
  | cons w vs ih =>
    rw [printItems, List.length_append, List.cons_append, List.length_cons] at enough
    obtain ⟨fuel, rfl⟩ := Nat.exists_eq_add_one.mpr (show 0 < fuel by omega)
    obtain ⟨-, legible⟩ := List.forall_mem_cons.mp legible
    obtain ⟨first, taken⟩ := List.forall_mem_cons.mp taken
    have later := ih legible taken (show _ ≤ fuel by omega)
    have comma : skipSpaces (',' :: print w ++ printItems vs ++ rest) =
        ',' :: (print w ++ printItems vs ++ rest) := rfl
    have next : skipSpaces (print w ++ printItems vs ++ rest) =
        print w ++ printItems vs ++ rest := by
      rw [List.append_assoc, skipSpaces_print (legible w List.mem_cons_self)]
    rw [printItems, List.append_assoc, items, first _ _ (by omega)]
    simp only [comma, next, later]
    rfl

/-- A printed name is read together with the value after it, and then what follows. -/
lemma member_print {m : String × Json} (legible : Legible depth m.2) (taken : Taken depth m.2)
    (enough : 2 * (print m.2).length ≤ fuel) :
    members (fuel + 1) depth (printString m.1.toList ++ ':' :: print m.2 ++ '\x7d' :: rest) =
        .ok ([m], rest) ∧
      members (fuel + 1) depth (printString m.1.toList ++ ':' :: print m.2 ++ ',' :: rest) =
        (members fuel depth (skipSpaces rest)).map fun r => (m :: r.1, r.2) := by
  have split (cs : List Char) : printString m.1.toList ++ ':' :: print m.2 ++ cs =
      '"' :: (m.1.toList.flatMap escapeChar ++ '"' :: (':' :: (print m.2 ++ cs))) := by
    rw [printString]
    simp only [List.append_assoc, List.cons_append, List.nil_append]
  have colon (cs : List Char) : skipSpaces (':' :: cs) = ':' :: cs := rfl
  have brace : skipSpaces ('\x7d' :: rest) = '\x7d' :: rest := rfl
  have comma : skipSpaces (',' :: rest) = ',' :: rest := rfl
  constructor
  · rw [split, members]
    simp only [stringTail_escaped, colon, skipSpaces_print legible, taken _ _ enough, brace]
  · rw [split, members]
    simp only [stringTail_escaped, colon, skipSpaces_print legible, taken _ _ enough, comma]

/-- Members each of which is taken are taken together. -/
lemma members_print {m : String × Json} (legible : ∀ w ∈ m :: ms, Legible depth w.2)
    (taken : ∀ w ∈ m :: ms, Taken depth w.2)
    (enough : 2 * (printString m.1.toList ++ ':' :: print m.2 ++ printMembers ms).length ≤ fuel) :
    members fuel depth (printString m.1.toList ++ ':' :: print m.2 ++ printMembers ms ++ rest) =
      .ok (m :: ms, rest) := by
  induction ms generalizing m fuel with
  | nil =>
    rw [List.length_append, List.length_append, List.length_cons] at enough
    obtain ⟨fuel, rfl⟩ := Nat.exists_eq_add_one.mpr (show 0 < fuel by omega)
    have short : 2 * (print m.2).length ≤ fuel := by omega
    have text : printMembers [] ++ rest = '\x7d' :: rest := rfl
    rw [List.append_assoc, text]
    exact (member_print (legible m List.mem_cons_self) (taken m List.mem_cons_self) short).1
  | cons w ms ih =>
    have text : printMembers (w :: ms) =
        ',' :: (printString w.1.toList ++ ':' :: print w.2 ++ printMembers ms) := rfl
    rw [text, List.length_append, List.length_append, List.length_cons, List.length_cons] at enough
    obtain ⟨fuel, rfl⟩ := Nat.exists_eq_add_one.mpr (show 0 < fuel by omega)
    obtain ⟨readable, legible⟩ := List.forall_mem_cons.mp legible
    obtain ⟨first, taken⟩ := List.forall_mem_cons.mp taken
    have later := ih legible taken (show _ ≤ fuel by omega)
    rw [text, List.append_assoc, List.cons_append, (member_print readable first (by omega)).2]
    change (members fuel depth
      (printString w.1.toList ++ ':' :: print w.2 ++ printMembers ms ++ rest)).map _ = _
    rw [later]
    rfl

lemma value_string :
    value (fuel + 1) depth ('"' :: rest) = (stringTail rest).map fun r => (string r.1, r.2) := by
  rw [value.eq_def]
  rfl

lemma value_array (h : skipSpaces rest = rest) (closed : rest.head? ≠ some ']') :
    value (fuel + 1) (depth + 1) ('[' :: rest) =
      (items fuel depth rest).map fun r => (array r.1, r.2) := by
  rw [value.eq_def]
  dsimp only
  rw [if_neg (by decide), if_pos rfl, h]
  split
  · exact absurd rfl closed
  · rfl

lemma value_object :
    value (fuel + 1) (depth + 1) ('\x7b' :: '"' :: rest) =
      (members fuel depth ('"' :: rest)).map fun r => (ofMembers r.1, r.2) := by
  rw [value.eq_def]
  rfl

lemma Taken.of_succ (legible : Legible depth v)
    (h : ∀ fuel rest, 2 * (print v).length ≤ fuel + 1 →
      value (fuel + 1) depth (print v ++ rest) = .ok (v, rest)) : Taken depth v := by
  intro fuel rest enough
  obtain ⟨c, cs, text, -⟩ := print_head legible
  rw [text, List.length_cons] at enough
  obtain ⟨fuel, rfl⟩ := Nat.exists_eq_add_one.mpr (show 0 < fuel by omega)
  exact h fuel rest (by rwa [text, List.length_cons])

lemma Legible.taken (legible : Legible depth v) : Taken depth v := by
  induction legible with
  | null => exact .of_succ .null fun _ _ _ => rfl
  | bool b => cases b <;> exact .of_succ (.bool _) fun _ _ _ => rfl
  | string s =>
    refine .of_succ (.string s) fun fuel rest _ => ?_
    have text : print (.string s) ++ rest =
        '"' :: (s.toList.flatMap escapeChar ++ '"' :: rest) := by
      rw [print, printString, List.cons_append, List.cons_append, List.append_assoc,
        List.singleton_append]
    rw [text, value_string, stringTail_escaped]
    rfl
  | @array depth vs legible ih =>
    refine .of_succ (.array legible) fun fuel rest enough => ?_
    cases vs with
    | nil => rfl
    | cons v vs =>
      obtain ⟨c, cs, text, dark, opens⟩ := print_head (legible v List.mem_cons_self)
      have inner : skipSpaces (print v ++ printItems vs ++ rest) =
          print v ++ printItems vs ++ rest := by
        rw [List.append_assoc, skipSpaces_print (legible v List.mem_cons_self)]
      have closed : (print v ++ printItems vs ++ rest).head? ≠ some ']' := by
        rw [text]
        exact fun h => opens (Option.some.inj h)
      have short : 2 * (print v ++ printItems vs).length ≤ fuel := by
        rw [print, List.cons_append, List.length_cons] at enough
        omega
      rw [print, List.cons_append, List.cons_append, value_array inner closed,
        items_print legible ih short]
      rfl
  | @object depth ms distinct legible ih =>
    refine .of_succ (.object distinct legible) fun fuel rest enough => ?_
    cases ms with
    | nil => rfl
    | cons m ms =>
      have text : print (.object (m :: ms)) =
          '\x7b' :: (printString m.1.toList ++ ':' :: print m.2 ++ printMembers ms) := rfl
      rw [text, List.length_cons] at enough
      have whole : members fuel depth
          (printString m.1.toList ++ ':' :: print m.2 ++ printMembers ms ++ rest) =
          .ok (m :: ms, rest) := members_print legible ih (by omega)
      rw [text, List.cons_append]
      refine value_object.trans ?_
      change (members fuel depth
        (printString m.1.toList ++ ':' :: print m.2 ++ printMembers ms ++ rest)).map _ = _
      rw [whole, ← ofMembers_distinct distinct]
      rfl

lemma Legible.mono {deeper : Nat} (legible : Legible depth v) (h : depth ≤ deeper) :
    Legible deeper v := by
  induction legible generalizing deeper with
  | null => exact .null
  | bool b => exact .bool b
  | string s => exact .string s
  | array _ ih =>
    obtain ⟨deeper, rfl⟩ := Nat.exists_eq_add_one.mpr (Nat.lt_of_lt_of_le (Nat.succ_pos _) h)
    exact .array fun v hv => ih v hv (Nat.le_of_succ_le_succ h)
  | object distinct _ ih =>
    obtain ⟨deeper, rfl⟩ := Nat.exists_eq_add_one.mpr (Nat.lt_of_lt_of_le (Nat.succ_pos _) h)
    exact .object distinct fun m hm => ih m hm (Nat.le_of_succ_le_succ h)

/-- **Printed values are read back.** -/
theorem parse_print (legible : Legible depth v) (h : depth ≤ maxDepth) :
    parse (print v) = .ok v := by
  have legible := legible.mono h
  have whole := legible.taken (2 * (print v).length + 2) [] (Nat.le_add_right _ _)
  have inner : skipSpaces (print v ++ []) = print v ++ [] := skipSpaces_print legible
  rw [List.append_nil] at whole inner
  rw [parse, document, inner, whole]
  rfl

end BlogConsole.Json
