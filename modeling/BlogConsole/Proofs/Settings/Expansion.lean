import BlogConsole.Settings.EnvFile
import Mathlib.Data.List.Induction
import Mathlib.Tactic.Lemma

/-!
What the variables of an environment file come to.

The entries of a file are resolved one after the other. The value of an entry may refer to the
variables that are known by then: those of the entries before it, and behind them those of the
environment. So a value depends on the names that it refers to, and on no others.
-/

namespace BlogConsole.EnvFile

/-! ### References -/

/-- The names that a value refers to, in order. The first argument bounds the length of the
value. -/
def referencesFrom : Nat → List Char → List (List Char)
  | 0, _ => []
  | _ + 1, [] => []
  | fuel + 1, c :: cs =>
    match c, cs with
    | '$', '\x7b' :: rest =>
      match reference? rest with
      | some (name, _, after) => name :: referencesFrom fuel after
      | none => referencesFrom fuel cs
    | _, _ => referencesFrom fuel cs

/-- The names that a value refers to, in order. -/
def references (cs : List Char) : List (List Char) := referencesFrom (cs.length + 1) cs

variable {vars vars' : Variables} {cs : List Char}

lemma expandFrom_congr {fuel : Nat}
    (h : ∀ n ∈ referencesFrom fuel cs, vars.lookup n = vars'.lookup n) :
    expandFrom vars fuel cs = expandFrom vars' fuel cs := by
  induction fuel generalizing cs with
  | zero => rfl
  | succ fuel ih =>
    cases cs with
    | nil => rfl
    | cons c cs =>
      unfold referencesFrom at h
      split at h
      · next rest =>
        cases found : reference? rest with
        | none =>
          simp only [found] at h
          simp only [expandFrom, found, ih h]
        | some r =>
          obtain ⟨name, default, after⟩ := r
          simp only [found, List.forall_mem_cons] at h
          simp only [expandFrom, found, lookUp, ih h.2, h.1]
      · next plain =>
        unfold expandFrom
        split
        · next rest => exact absurd rfl (plain rest rfl)
        · rw [ih h]

/-- A value depends on the variables that it refers to. -/
lemma expand_congr (h : ∀ n ∈ references cs, vars.lookup n = vars'.lookup n) :
    expand vars cs = expand vars' cs := expandFrom_congr h

/-! ### Variables -/

variable {environment environment' : List (List Char × List Char)} {bs : List Binding} {b : Binding}
  {n m : List Char} {v : Option (List Char)} {p : List Char × Option (List Char)}

lemma lookup_putVariable (n m : List Char) (v : Option (List Char)) (vars : Variables) :
    (putVariable n v vars).lookup m = if m = n then some v else vars.lookup m := by
  have found (k : List Char) (w : Option (List Char)) (rest : Variables) :
      List.lookup m ((k, w) :: rest) = if m = k then some w else rest.lookup m := by
    by_cases h : m = k
    · simp [h]
    · have : (m == k) = false := by simpa using h
      simp [List.lookup_cons, h, this]
  induction vars with
  | nil => exact found n v []
  | cons q vars ih =>
    obtain ⟨k, w⟩ := q
    rw [putVariable]
    split
    · next same =>
      subst same
      rw [found, found]
      split <;> rfl
    · next other =>
      rw [found, found, ih]
      by_cases h : m = k
      · have : m ≠ n := fun same => other (h.symm.trans same)
        simp [h, other]
      · simp [h]

lemma mem_of_putVariable (h : p ∈ putVariable n v vars) : p = (n, v) ∨ p ∈ vars := by
  induction vars with
  | nil => exact .inl (List.mem_singleton.mp h)
  | cons q vars ih =>
    rw [putVariable] at h
    split at h
    · rcases List.mem_cons.mp h with rfl | h
      · exact .inl rfl
      · exact .inr (List.mem_cons_of_mem _ h)
    · rcases List.mem_cons.mp h with rfl | h
      · exact .inr (List.mem_cons_self ..)
      · exact (ih h).imp_right (List.mem_cons_of_mem _)

lemma named_putVariable (n : List Char) (v : Option (List Char)) (vars : Variables) :
    ∀ m, m = n ∨ m ∈ vars.map Prod.fst → m ∈ (putVariable n v vars).map Prod.fst := by
  intro m hm
  induction vars with
  | nil => simpa [putVariable] using hm
  | cons q vars ih =>
    rw [putVariable]
    split
    · next same => simpa [same] using hm
    · rw [List.map_cons, List.mem_cons] at hm ⊢
      rcases hm with rfl | rfl | hm
      · exact .inr (ih (.inl rfl))
      · exact .inl rfl
      · exact .inr (ih (.inr hm))

def outer (environment : List (List Char × List Char)) : Variables :=
  environment.map fun p => (p.1, some p.2)

/-- The variables that are known after some entries: those of the file, and behind them those of the
environment. -/
def known (environment : List (List Char × List Char)) (bs : List Binding) : Variables :=
  resolve environment bs ++ outer environment

lemma resolve_snoc (environment : List (List Char × List Char)) (bs : List Binding) (b : Binding) :
    resolve environment (bs ++ [b]) =
      putVariable b.name (b.value.map (expand (known environment bs)))
        (resolve environment bs) := by
  rw [resolve, List.foldl_append]
  rfl

/-- A name stands for what its last entry comes to. -/
lemma lookup_known_snoc (environment : List (List Char × List Char)) (bs : List Binding)
    (b : Binding) (n : List Char) :
    (known environment (bs ++ [b])).lookup n =
      if n = b.name then some (b.value.map (expand (known environment bs)))
      else (known environment bs).lookup n := by
  rw [known, List.lookup_append, resolve_snoc, lookup_putVariable]
  split
  · rfl
  · rw [known, List.lookup_append]

/-- A variable of a file comes from an entry. -/
lemma mem_resolve (h : p ∈ resolve environment bs) :
    ∃ before b later, bs = before ++ b :: later ∧
      p = (b.name, b.value.map (expand (known environment before))) := by
  induction bs using List.reverseRecOn with
  | nil => cases h
  | append_singleton bs b ih =>
    rw [resolve_snoc] at h
    rcases mem_of_putVariable h with rfl | h
    · exact ⟨bs, b, [], rfl, rfl⟩
    · obtain ⟨before, b', later, rfl, rfl⟩ := ih h
      exact ⟨before, b', later ++ [b], by simp, rfl⟩

/-- Every entry of a file has its variable. -/
lemma named_resolve (h : b ∈ bs) : b.name ∈ (resolve environment bs).map Prod.fst := by
  induction bs using List.reverseRecOn with
  | nil => cases h
  | append_singleton bs b' ih =>
    rw [resolve_snoc]
    refine named_putVariable _ _ _ _ ?_
    rcases List.mem_append.mp h with h | h
    · exact .inr (ih h)
    · exact .inl (by rw [List.mem_singleton.mp h])

end BlogConsole.EnvFile
