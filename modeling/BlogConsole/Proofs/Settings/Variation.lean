import BlogConsole.Proofs.Settings.Resolution
import Mathlib.Data.List.Forall2

/-!
Environments that differ in one setting.

Two environments have the same variables, and the same values but for those of one setting. Then the
texts of all other settings are the same, with any environment file that does not refer to this one.
If the texts of that one can be read, the settings are loaded from both environments or from
neither, for the same faults, and they differ in it alone.
-/

namespace BlogConsole.Settings

/-- Two environments with the same variables. Their values may differ if their name is that of one
setting, in some case. -/
def Varies (key : Key) : Environment → Environment → Prop :=
  List.Forall₂ fun p q => p.1 = q.1 ∧ (fold p.1.toList ≠ key.name.toList → p.2 = q.2)

/-- No value of an environment file refers to a variable with the name of a setting, in any case. -/
def Unreferred (key : Key) (file : Option String) : Prop :=
  ∀ text ∈ file, ∀ n, Refers (EnvFile.bindings text.toList) n → fold n ≠ key.name.toList

variable {key other : Key} {environment environment' : Environment} {file : Option String}

lemma unreferred_none (key : Key) : Unreferred key none := fun _ h => by cases h

lemma Varies.lookup (h : Varies key environment environment') {name : String}
    (foreign : fold name.toList ≠ key.name.toList) :
    environment'.lookup name = environment.lookup name := by
  induction h with
  | nil => rfl
  | @cons p q _ _ same _ ih =>
    obtain ⟨n, v⟩ := p
    obtain ⟨n', v'⟩ := q
    obtain ⟨rfl, value⟩ := same
    by_cases found : name = n
    · subst found
      obtain rfl : v = v' := value foreign
      simp
    · simp only [List.lookup_cons, beq_eq_false_iff_ne.mpr found]
      exact ih

lemma outer_lookup (environment : Environment) (name : String) :
    (EnvFile.outer (variablesOf environment)).lookup name.toList =
      (environment.lookup name).map fun v => some v.toList := by
  induction environment with
  | nil => rfl
  | cons p _ ih =>
    obtain ⟨n, v⟩ := p
    by_cases found : name = n
    · simp [EnvFile.outer, variablesOf, found]
    · have other : name.toList ≠ n.toList := mt String.toList_inj.mp found
      simpa [EnvFile.outer, variablesOf, List.lookup_cons, beq_eq_false_iff_ne.mpr found,
        beq_eq_false_iff_ne.mpr other] using ih

lemma Varies.fileVariables (h : Varies key environment environment')
    (unreferred : Unreferred key file) :
    fileVariables environment' file = fileVariables environment file := by
  cases file with
  | none => rfl
  | some text =>
    have plain := unreferred text rfl
    change EnvFile.resolve (variablesOf environment') (EnvFile.bindings text.toList) =
      EnvFile.resolve (variablesOf environment) (EnvFile.bindings text.toList)
    generalize EnvFile.bindings text.toList = bs at plain
    induction bs using List.reverseRecOn with
    | nil => rfl
    | append_singleton bs b ih =>
      have earlier := ih fun n hn => plain n (refers_snoc.mpr (.inl hn))
      have same (n : List Char) (foreign : fold n ≠ key.name.toList) :
          (EnvFile.known (variablesOf environment') bs).lookup n =
            (EnvFile.known (variablesOf environment) bs).lookup n := by
        rw [EnvFile.known, EnvFile.known, earlier, List.lookup_append, List.lookup_append,
          ← String.toList_ofList (l := n), outer_lookup, outer_lookup,
          h.lookup (by rwa [String.toList_ofList])]
      have value := expand_restyled (b := b) same fun n hn => plain n (refers_snoc.mpr (.inr hn))
      rw [EnvFile.resolve_snoc, EnvFile.resolve_snoc, earlier, value]

lemma name_ne (h : other ≠ key) : other.name.toList ≠ key.name.toList := by
  revert h
  cases other <;> cases key <;> decide

lemma Varies.find? (h : Varies key environment environment') (vars : EnvFile.Variables)
    (ne : other ≠ key) : find? environment' vars other = find? environment vars other := by
  have backwards := List.rel_reverse h
  rw [find?_eq, find?_eq]
  congr 1
  rw [fromEnvironment, fromEnvironment]
  generalize environment.reverse = ps at backwards ⊢
  generalize environment'.reverse = qs at backwards ⊢
  induction backwards with
  | nil => rfl
  | @cons p q _ _ same _ ih =>
    obtain ⟨n, v⟩ := p
    obtain ⟨n', v'⟩ := q
    obtain ⟨rfl, value⟩ := same
    by_cases named : fold n.toList = other.name.toList
    · obtain rfl : v = v' := value fun name => name_ne ne (named.symm.trans name)
      simp [named]
    · simpa [named] using ih

/-! ### Faults -/

def Key.faults (key : Key) (chosen : Option String) : List Problem :=
  match key with
  | .timeout => (setting readDouble .timeout Client.defaultTimeout chosen).problems
  | .useMock => (setting readBool .useMock false chosen).problems
  | .logLevel => (setting readLogLevel .logLevel .info chosen).problems
  | _ => []

lemma problems_valid {α : Type} (a : α) : (Checked.valid a).problems = [] := rfl

lemma problems_apply {α β : Type} (f : Checked (α → β)) (x : Checked α) :
    (f.apply x).problems = f.problems ++ x.problems := by
  cases f <;> cases x <;> simp [Checked.apply, Checked.problems]

lemma setting_readText (key : Key) (default : String) (chosen : Option String) :
    setting readText key default chosen = .valid (chosen.getD default) := by
  cases chosen <;> rfl

/-- All faults are reported, in the order of the settings. -/
lemma problems_ofTexts (chosen : Key → Option String) :
    (ofTexts chosen).problems = Key.all.flatMap fun key => key.faults (chosen key) := by
  simp [ofTexts, problems_apply, setting_readText, problems_valid, Key.all, Key.faults]

def Key.isText : Key → Bool
  | .timeout => false
  | .useMock => false
  | .logLevel => false
  | _ => true

lemma Key.accepts_of_isText (text : key.isText = true) (v : String) : key.Accepts v := by
  cases key with
  | timeout | useMock | logLevel => cases text
  | _ => trivial

lemma Key.faults_of_isText (text : key.isText = true) (c : Option String) : key.faults c = [] := by
  cases key with
  | timeout | useMock | logLevel => cases text
  | _ => rfl

variable {chosen chosen' : Key → Option String} {s s' : Settings}

/-- Settings that are loaded with some texts are loaded with others, too, if these differ in the
texts of one setting. -/
lemma exists_varies (text : key.isText = true)
    (same : ∀ other, other ≠ key → chosen' other = chosen other)
    (h : ∃ s, ofTexts chosen = .valid s) : ∃ s, ofTexts chosen' = .valid s := by
  rw [exists_ofTexts] at h ⊢
  intro other v hv
  by_cases eq : other = key
  · subst eq
    exact Key.accepts_of_isText text v
  · exact h other v (same other eq ▸ hv)

/-- The texts of one setting matter for nothing but for it. -/
lemma ofTexts_varies (text : key.isText = true)
    (same : ∀ other, other ≠ key → chosen' other = chosen other) :
    (∃ ps, ofTexts chosen = .invalid ps ∧ ofTexts chosen' = .invalid ps) ∨
      ∃ s s', ofTexts chosen = .valid s ∧ ofTexts chosen' = .valid s' := by
  have faults : (ofTexts chosen').problems = (ofTexts chosen).problems := by
    rw [problems_ofTexts, problems_ofTexts]
    refine List.flatMap_congr fun other _ => ?_
    by_cases eq : other = key
    · subst eq
      rw [Key.faults_of_isText text, Key.faults_of_isText text]
    · rw [same other eq]
  cases h : ofTexts chosen with
  | valid s =>
    obtain ⟨s', h'⟩ := exists_varies text same ⟨s, h⟩
    exact .inr ⟨s, s', rfl, h'⟩
  | invalid ps =>
    cases h' : ofTexts chosen' with
    | valid s' =>
      obtain ⟨s, valid⟩ := exists_varies text (fun other ne => (same other ne).symm) ⟨s', h'⟩
      cases h.symm.trans valid
    | invalid ps' =>
      rw [h, h'] at faults
      exact .inl ⟨ps, rfl, congrArg Checked.invalid faults⟩

/-! ### Loading -/

lemma Given.unique {α : Type} {read : String → Checked α} {default : α} {c : Option String}
    {a a' : α} (h : Given read default c a) (h' : Given read default c a') : a = a' := by
  cases c with
  | none => exact h.trans h'.symm
  | some v => exact Checked.valid.inj (h.symm.trans h')

lemma fields_eq (same : ∀ other, other ≠ key → ∃ c, s.Holds other c ∧ s'.Holds other c) :
    (.accessToken ≠ key → s'.accessToken = s.accessToken) ∧
      (.apiKey ≠ key → s'.apiKey = s.apiKey) ∧ (.blogId ≠ key → s'.blogId = s.blogId) ∧
      (.baseUrl ≠ key → s'.baseUrl = s.baseUrl) ∧ (.timeout ≠ key → s'.timeout = s.timeout) ∧
      (.useMock ≠ key → s'.useMock = s.useMock) ∧
      (.logLevel ≠ key → s'.logLevel = s.logLevel) := by
  refine ⟨?_, ?_, ?_, ?_, ?_, ?_, ?_⟩
  all_goals
    intro ne
    obtain ⟨c, holds, holds'⟩ := same _ ne
    exact Given.unique holds' holds

/-- **Environments that differ in the text of one setting** lead to the same faults, or to settings
that differ in it alone and have the texts that were chosen for it. -/
lemma load_varies (h : Varies key environment environment') (unreferred : Unreferred key file)
    (text : key.isText = true) :
    (∃ ps, load environment file = .invalid ps ∧ load environment' file = .invalid ps) ∨
      ∃ s s', load environment file = .valid s ∧ load environment' file = .valid s' ∧
        s.Holds key (Settings.find? environment (Settings.fileVariables environment file) key) ∧
        s'.Holds key (Settings.find? environment' (Settings.fileVariables environment' file) key) ∧
        ∀ other, other ≠ key → ∃ c, s.Holds other c ∧ s'.Holds other c := by
  rw [load_eq, load_eq, h.fileVariables unreferred]
  obtain invalid | ⟨s, s', valid, valid'⟩ := ofTexts_varies text fun other => h.find? _
  · exact .inl invalid
  · have holds := ofTexts_eq_valid.mp valid
    have holds' := ofTexts_eq_valid.mp valid'
    refine .inr ⟨s, s', valid, valid', holds key, holds' key, fun other ne => ⟨_, holds other, ?_⟩⟩
    exact h.find? _ ne ▸ holds' other

end BlogConsole.Settings
