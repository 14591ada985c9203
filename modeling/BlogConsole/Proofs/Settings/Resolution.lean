import BlogConsole.Proofs.Settings.Expansion
import BlogConsole.Settings.Basic
import Mathlib.Data.List.Pairwise

/-!
Where the settings come from.

Each setting has its text from the environment, else from the entries of the file, else it has its
default. A text is looked for by the name of the setting, in which case does not matter. So the
settings are told by the chosen texts, one for each name, and nothing else in environment and file
makes a difference, as long as no value refers to it.
-/

namespace BlogConsole.Settings

open EnvFile

/-! ### Values -/

/-- A setting has its default if no text was chosen for it, else the value that the text is read
as. -/
def Given {α : Type} (read : String → Checked α) (default : α) (chosen : Option String) (a : α) :
    Prop :=
  match chosen with
  | none => a = default
  | some v => read v = .valid a

/-- A setting has the value of the text that was chosen for it. -/
def Holds (s : Settings) (key : Key) (chosen : Option String) : Prop :=
  match key with
  | .accessToken => Given readText "" chosen s.accessToken
  | .apiKey => Given readText "" chosen s.apiKey
  | .blogId => Given readText "" chosen s.blogId
  | .baseUrl => Given readText Client.defaultBaseUrl chosen s.baseUrl
  | .timeout => Given readDouble Client.defaultTimeout chosen s.timeout
  | .useMock => Given readBool false chosen s.useMock
  | .logLevel => Given readLogLevel .info chosen s.logLevel

/-- A text can be read as the value of a setting. Every text is one where a text is wanted. -/
def Key.Accepts (key : Key) (v : String) : Prop :=
  match key with
  | .timeout => ∃ x, readDouble v = .valid x
  | .useMock => ∃ b, readBool v = .valid b
  | .logLevel => ∃ l, readLogLevel v = .valid l
  | _ => True

/-- The value of a setting, if no text was chosen for it or the text can be read. -/
def setting {α : Type} (read : String → Checked α) (key : Key) (default : α)
    (chosen : Option String) : Checked α :=
  match chosen with
  | some v => (read v).under (.field key.name)
  | none => .valid default

def ofTexts (chosen : Key → Option String) : Checked Settings :=
  ((setting readText .accessToken "" (chosen .accessToken)).map Settings.mk)
    |>.apply (setting readText .apiKey "" (chosen .apiKey))
    |>.apply (setting readText .blogId "" (chosen .blogId))
    |>.apply (setting readText .baseUrl Client.defaultBaseUrl (chosen .baseUrl))
    |>.apply (setting readDouble .timeout Client.defaultTimeout (chosen .timeout))
    |>.apply (setting readBool .useMock false (chosen .useMock))
    |>.apply (setting readLogLevel .logLevel .info (chosen .logLevel))

lemma load_eq (environment : Environment) (file : Option String) :
    load environment file = ofTexts (find? environment (fileVariables environment file)) := rfl

lemma setting_eq_valid {α : Type} {read : String → Checked α} {key : Key} {default : α}
    {chosen : Option String} {a : α} :
    setting read key default chosen = .valid a ↔ Given read default chosen a := by
  cases chosen with
  | none => simp [setting, Given, eq_comm]
  | some v => cases h : read v <;> simp [setting, Given, h, Checked.under]

lemma ofTexts_eq_valid {chosen : Key → Option String} {s : Settings} :
    ofTexts chosen = .valid s ↔ ∀ key, s.Holds key (chosen key) := by
  simp only [ofTexts, Checked.apply_eq_valid, Checked.map_eq_valid, setting_eq_valid]
  constructor
  · rintro ⟨_, ⟨_, ⟨_, ⟨_, ⟨_, ⟨_, ⟨token, hToken, rfl⟩, key, hKey, rfl⟩, blog, hBlog, rfl⟩, base,
      hBase, rfl⟩, time, hTime, rfl⟩, mock, hMock, rfl⟩, level, hLevel, rfl⟩ key
    cases key <;> assumption
  · intro h
    exact ⟨_, ⟨_, ⟨_, ⟨_, ⟨_, ⟨_, ⟨_, h .accessToken, rfl⟩, _, h .apiKey, rfl⟩, _, h .blogId, rfl⟩,
      _, h .baseUrl, rfl⟩, _, h .timeout, rfl⟩, _, h .useMock, rfl⟩, _, h .logLevel, rfl⟩

lemma exists_given {α : Type} (read : String → Checked α) (default : α) (chosen : Option String) :
    (∃ a, Given read default chosen a) ↔ ∀ v, chosen = some v → ∃ a, read v = .valid a := by
  cases chosen <;> simp [Given]

lemma exists_ofTexts {chosen : Key → Option String} :
    (∃ s, ofTexts chosen = .valid s) ↔ ∀ key v, chosen key = some v → key.Accepts v := by
  simp only [ofTexts_eq_valid]
  constructor
  · rintro ⟨s, h⟩ key v hv
    have holds := h key
    rw [hv] at holds
    cases key with
    | timeout | useMock | logLevel => exact ⟨_, holds⟩
    | _ => trivial
  · intro h
    have text (key : Key) (default : String) : ∃ a, Given readText default (chosen key) a :=
      (exists_given _ _ _).mpr fun v _ => ⟨v, rfl⟩
    obtain ⟨token, hToken⟩ := text .accessToken ""
    obtain ⟨apiKey, hKey⟩ := text .apiKey ""
    obtain ⟨blog, hBlog⟩ := text .blogId ""
    obtain ⟨base, hBase⟩ := text .baseUrl Client.defaultBaseUrl
    obtain ⟨time, hTime⟩ := (exists_given _ Client.defaultTimeout _).mpr (h .timeout)
    obtain ⟨mock, hMock⟩ := (exists_given _ false _).mpr (h .useMock)
    obtain ⟨level, hLevel⟩ := (exists_given _ LogLevel.info _).mpr (h .logLevel)
    refine ⟨⟨token, apiKey, blog, base, time, mock, level⟩, fun key => ?_⟩
    cases key <;> assumption

/-! ### Texts -/

def variablesOf (environment : Environment) : List (List Char × List Char) :=
  environment.map fun p => (p.1.toList, p.2.toList)

/-- A file assigns a text to a setting: one of its entries has the name of the setting, in some
case, and a value, which comes to this text with the variables that are known by then. -/
def Assigns (environment : Environment) (bs : List Binding) (key : Key) (v : List Char) : Prop :=
  ∃ before b later raw, bs = before ++ b :: later ∧ fold b.name = key.name.toList ∧
    b.value = some raw ∧ v = expand (known (variablesOf environment) before) raw

/-- The text that is chosen for a setting: that of a variable of the environment, else the one that
the file assigns, else none. -/
inductive Chooses (environment : Environment) (bs : List Binding) (key : Key) :
    Option String → Prop
  | variable {n v : String} : (n, v) ∈ environment → fold n.toList = key.name.toList →
      Chooses environment bs key (some v)
  | entry {v : List Char} : (∀ p ∈ environment, fold p.1.toList ≠ key.name.toList) →
      Assigns environment bs key v → Chooses environment bs key (some (String.ofList v))
  | nothing : (∀ p ∈ environment, fold p.1.toList ≠ key.name.toList) →
      (∀ v, ¬ Assigns environment bs key v) → Chooses environment bs key none

/-- No two variables of an environment have the same name but for case. -/
def Unambiguous (environment : Environment) : Prop :=
  environment.Pairwise fun p q => fold p.1.toList ≠ fold q.1.toList

/-- No two entries of a file have the same name but for case, unless neither of them has a value. -/
def UnambiguousFile (bs : List Binding) : Prop :=
  bs.Pairwise fun b b' => fold b.name = fold b'.name → b.value = none ∧ b'.value = none

variable {environment environment' : Environment} {bs bs' : List Binding} {key : Key}

/-- The text of the last variable with the name of a setting. -/
def fromEnvironment (environment : Environment) (key : Key) : Option String :=
  (environment.reverse.find? fun p => fold p.1.toList = key.name.toList).map (·.2)

def fromFile (vars : Variables) (key : Key) : Option String :=
  (vars.reverse.find? fun p => fold p.1 = key.name.toList).bind fun p => p.2.map String.ofList

lemma find?_eq (environment : Environment) (vars : Variables) (key : Key) :
    find? environment vars key = (fromEnvironment environment key).or (fromFile vars key) := rfl

lemma fromEnvironment_eq_none :
    fromEnvironment environment key = none ↔
      ∀ p ∈ environment, fold p.1.toList ≠ key.name.toList := by
  simp [fromEnvironment]

lemma fromEnvironment_eq_some (h : Unambiguous environment) {v : String} :
    fromEnvironment environment key = some v ↔
      ∃ n, (n, v) ∈ environment ∧ fold n.toList = key.name.toList := by
  constructor
  · intro found
    obtain ⟨p, hp, rfl⟩ := Option.map_eq_some_iff.mp found
    have named : fold p.1.toList = key.name.toList := by simpa using List.find?_some hp
    exact ⟨p.1, List.mem_reverse.mp (List.mem_of_find?_eq_some hp), named⟩
  · rintro ⟨n, mem, named⟩
    cases found : environment.reverse.find? fun p => fold p.1.toList = key.name.toList with
    | none =>
      have absent := List.find?_eq_none.mp found (n, v) (List.mem_reverse.mpr mem)
      simp [named] at absent
    | some p =>
      have mem' := List.mem_reverse.mp (List.mem_of_find?_eq_some found)
      have named' : fold p.1.toList = key.name.toList := by simpa using List.find?_some found
      -- of two variables with the name of the setting, one would be too much
      have same : p = (n, v) := by
        by_contra other
        have symm : Std.Symm fun p q : String × String => fold p.1.toList ≠ fold q.1.toList :=
          ⟨fun _ _ => Ne.symm⟩
        exact List.Pairwise.forall h mem' mem other (named'.trans named.symm)
      rw [fromEnvironment, found, same]
      rfl

/-- An entry with a value is the only one of its name. -/
lemma UnambiguousFile.unique (h : UnambiguousFile bs) {before before' later later' : List Binding}
    {b b' : Binding} (hb : bs = before ++ b :: later) (hb' : bs = before' ++ b' :: later')
    (name : fold b.name = fold b'.name) (value : b.value ≠ none) : before = before' ∧ b = b' := by
  have same := hb.symm.trans hb'
  rw [List.append_eq_append_iff] at same
  rw [hb, UnambiguousFile, List.pairwise_append] at h
  obtain ⟨-, after, across⟩ := h
  rcases same with ⟨mid, rfl, next⟩ | ⟨mid, rfl, next⟩
  · cases mid with
    | nil =>
      rw [List.nil_append, List.cons.injEq] at next
      exact ⟨(List.append_nil _).symm, next.1⟩
    | cons c mid =>
      -- the other entry would stand behind this one
      rw [List.cons_append, List.cons.injEq] at next
      have mem : b' ∈ later := by simp [next.2]
      exact absurd ((List.pairwise_cons.mp after).1 b' mem name).1 value
  · cases mid with
    | nil =>
      rw [List.nil_append, List.cons.injEq] at next
      exact ⟨List.append_nil _, next.1.symm⟩
    | cons c mid =>
      rw [List.cons_append, List.cons.injEq] at next
      have mem : b' ∈ before' ++ c :: mid := by simp [next.1]
      exact absurd (across b' mem b (List.mem_cons_self ..) name.symm).2 value

lemma fromFile_eq_some (h : UnambiguousFile bs) {v : String} :
    fromFile (resolve (variablesOf environment) bs) key = some v ↔
      ∃ cs, Assigns environment bs key cs ∧ v = String.ofList cs := by
  constructor
  · intro found
    obtain ⟨p, hp, hv⟩ := Option.bind_eq_some_iff.mp found
    have named : fold p.1 = key.name.toList := by simpa using List.find?_some hp
    obtain ⟨before, b, later, rfl, rfl⟩ :=
      mem_resolve (List.mem_reverse.mp (List.mem_of_find?_eq_some hp))
    obtain ⟨cs, hcs, rfl⟩ := Option.map_eq_some_iff.mp hv
    obtain ⟨raw, hraw, rfl⟩ := Option.map_eq_some_iff.mp hcs
    exact ⟨_, ⟨before, b, later, raw, rfl, named, hraw, rfl⟩, rfl⟩
  · rintro ⟨_, ⟨before, b, later, raw, hbs, named, hraw, rfl⟩, rfl⟩
    have mem : b ∈ bs := by simp [hbs]
    have known : b.name ∈ (resolve (variablesOf environment) bs).map Prod.fst :=
      named_resolve mem
    obtain ⟨p, hp, hname⟩ := List.mem_map.mp known
    cases found : (resolve (variablesOf environment) bs).reverse.find?
        fun p => fold p.1 = key.name.toList with
    | none =>
      have absent := List.find?_eq_none.mp found p (List.mem_reverse.mpr hp)
      simp [hname, named] at absent
    | some q =>
      have named' : fold q.1 = key.name.toList := by simpa using List.find?_some found
      obtain ⟨before', b', later', hbs', rfl⟩ :=
        mem_resolve (List.mem_reverse.mp (List.mem_of_find?_eq_some found))
      obtain ⟨rfl, rfl⟩ := h.unique hbs hbs' (named.trans named'.symm) (by simp [hraw])
      simp [fromFile, found, hraw]

/-- **The chosen text of a setting** is the one that its name leads to. -/
lemma chooses_iff (h : Unambiguous environment) (h' : UnambiguousFile bs) {c : Option String} :
    Chooses environment bs key c ↔
      find? environment (resolve (variablesOf environment) bs) key = c := by
  rw [find?_eq]
  constructor
  · rintro (⟨mem, named⟩ | ⟨absent, assigned⟩ | ⟨absent, unassigned⟩)
    · rw [(fromEnvironment_eq_some h).mpr ⟨_, mem, named⟩]
      rfl
    · rw [fromEnvironment_eq_none.mpr absent, (fromFile_eq_some h').mpr ⟨_, assigned, rfl⟩]
      rfl
    · rw [fromEnvironment_eq_none.mpr absent, Option.none_or]
      by_contra some
      obtain ⟨v, hv⟩ := Option.ne_none_iff_exists'.mp some
      obtain ⟨cs, assigned, -⟩ := (fromFile_eq_some h').mp hv
      exact unassigned cs assigned
  · rintro rfl
    cases outer : fromEnvironment environment key with
    | some v =>
      obtain ⟨n, mem, named⟩ := (fromEnvironment_eq_some h).mp outer
      exact .variable mem named
    | none =>
      have absent := fromEnvironment_eq_none.mp outer
      rw [Option.none_or]
      cases inner : fromFile (resolve (variablesOf environment) bs) key with
      | some v =>
        obtain ⟨cs, assigned, rfl⟩ := (fromFile_eq_some h').mp inner
        exact .entry absent assigned
      | none =>
        refine .nothing absent fun cs assigned => ?_
        cases inner.symm.trans ((fromFile_eq_some h').mpr ⟨cs, assigned, rfl⟩)

/-! ### What makes no difference -/

/-- No setting has this name, in any case. -/
def Foreign (n : List Char) : Prop := ∀ key : Key, fold n ≠ key.name.toList

lemma foreign_of_all {n : List Char} (h : ∀ key ∈ Key.all, fold n ≠ key.name.toList) : Foreign n :=
  fun key => h key (by cases key <;> decide)

/-- Two lists of named values are the same but for values with foreign names, which may come and go,
and for the case of names. No name at which they differ is referred to. -/
inductive Restyled {α β : Type} (name : α → List Char) (value : α → β)
    (referred : List Char → Prop) : List α → List α → Prop
  | nil : Restyled name value referred [] []
  | kept {xs ys : List α} (a : α) : Restyled name value referred xs ys →
      Restyled name value referred (xs ++ [a]) (ys ++ [a])
  | recased {xs ys : List α} {a b : α} : Restyled name value referred xs ys →
      fold (name a) = fold (name b) → value a = value b → ¬ referred (name a) →
      ¬ referred (name b) → Restyled name value referred (xs ++ [a]) (ys ++ [b])
  | added {xs ys : List α} {b : α} : Restyled name value referred xs ys → Foreign (name b) →
      ¬ referred (name b) → Restyled name value referred xs (ys ++ [b])
  | removed {xs ys : List α} {a : α} : Restyled name value referred xs ys → Foreign (name a) →
      ¬ referred (name a) → Restyled name value referred (xs ++ [a]) ys

/-- A value of a file refers to a name. -/
def Refers (bs : List Binding) (n : List Char) : Prop :=
  ∃ b ∈ bs, ∃ raw, b.value = some raw ∧ n ∈ references raw

/-- Two environments that are the same but for foreign names and for case. -/
abbrev RestyledEnvironment (referred : List Char → Prop) : Environment → Environment → Prop :=
  Restyled (fun p : String × String => p.1.toList) Prod.snd referred

/-- Two files whose entries are the same but for foreign names and for case. -/
abbrev RestyledFile (referred : List Char → Prop) : List Binding → List Binding → Prop :=
  Restyled Binding.name Binding.value referred

variable {referred : List Char → Prop}

lemma outer_snoc (environment : Environment) (p : String × String) (n : List Char) :
    (outer (variablesOf (environment ++ [p]))).lookup n =
      ((outer (variablesOf environment)).lookup n).or
        (if n = p.1.toList then some (some p.2.toList) else none) := by
  have last : outer (variablesOf (environment ++ [p])) =
      outer (variablesOf environment) ++ [(p.1.toList, some p.2.toList)] := by
    simp [outer, variablesOf]
  rw [last, List.lookup_append]
  congr 1
  by_cases h : n = p.1.toList
  · simp [h]
  · have : (n == p.1.toList) = false := by simpa using h
    simp [List.lookup_cons, h, this]

lemma RestyledEnvironment.lookup (h : RestyledEnvironment referred environment environment')
    {n : List Char} (hn : referred n) :
    (outer (variablesOf environment)).lookup n = (outer (variablesOf environment')).lookup n := by
  have other {p : String × String} (hp : ¬ referred p.1.toList) : n ≠ p.1.toList := by
    rintro rfl
    exact hp hn
  induction h with
  | nil => rfl
  | kept p _ ih => rw [outer_snoc, outer_snoc, ih]
  | recased _ _ _ ha hb ih =>
    rw [outer_snoc, outer_snoc, if_neg (other ha), if_neg (other hb), ih]
  | added _ _ hb ih => rw [outer_snoc, if_neg (other hb), Option.or_none, ih]
  | removed _ _ ha ih => rw [outer_snoc, if_neg (other ha), Option.or_none, ih]

lemma fromEnvironment_snoc (environment : Environment) (p : String × String) (key : Key) :
    fromEnvironment (environment ++ [p]) key =
      if fold p.1.toList = key.name.toList then some p.2 else fromEnvironment environment key := by
  rw [fromEnvironment, List.reverse_append, List.reverse_singleton, List.singleton_append,
    List.find?_cons]
  by_cases h : fold p.1.toList = key.name.toList <;> simp [h, fromEnvironment]

lemma RestyledEnvironment.chosen (h : RestyledEnvironment referred environment environment')
    (key : Key) : fromEnvironment environment key = fromEnvironment environment' key := by
  induction h with
  | nil => rfl
  | kept p _ ih => rw [fromEnvironment_snoc, fromEnvironment_snoc, ih]
  | recased _ same value _ _ ih =>
    rw [fromEnvironment_snoc, fromEnvironment_snoc, ih, same, value]
  | added _ foreign _ ih => rw [fromEnvironment_snoc, if_neg (foreign key), ih]
  | removed _ foreign _ ih => rw [fromEnvironment_snoc, if_neg (foreign key), ih]

lemma refers_snoc {b : Binding} {n : List Char} :
    Refers (bs ++ [b]) n ↔ Refers bs n ∨ ∃ raw, b.value = some raw ∧ n ∈ references raw := by
  simp only [Refers, List.mem_append, List.mem_singleton, or_and_right, exists_or, exists_eq_left]

/-- What a value comes to does not change with the other names. -/
lemma expand_restyled {b : Binding}
    (same : ∀ n, referred n → (known (variablesOf environment) bs).lookup n =
      (known (variablesOf environment') bs').lookup n)
    (refers : ∀ n, (∃ raw, b.value = some raw ∧ n ∈ references raw) → referred n) :
    b.value.map (expand (known (variablesOf environment) bs)) =
      b.value.map (expand (known (variablesOf environment') bs')) := by
  cases value : b.value with
  | none => rfl
  | some raw =>
    refine congrArg some (expand_congr fun n hn => ?_)
    exact same n (refers n ⟨raw, value, hn⟩)

lemma RestyledFile.lookup (h : RestyledFile referred bs bs')
    (henv : RestyledEnvironment referred environment environment')
    (refers : ∀ n, Refers bs n → referred n) {n : List Char} (hn : referred n) :
    (known (variablesOf environment) bs).lookup n =
      (known (variablesOf environment') bs').lookup n := by
  have other {b : Binding} (hb : ¬ referred b.name) {n : List Char} (hn : referred n) :
      n ≠ b.name := by
    rintro rfl
    exact hb hn
  induction h generalizing n with
  | nil => exact henv.lookup hn
  | kept b _ ih =>
    have earlier := fun n hn => refers n (refers_snoc.mpr (.inl hn))
    rw [lookup_known_snoc, lookup_known_snoc, ih earlier hn,
      expand_restyled (fun n => ih earlier) fun n hn => refers n (refers_snoc.mpr (.inr hn))]
  | recased _ _ _ ha hb ih =>
    rw [lookup_known_snoc, lookup_known_snoc, if_neg (other ha hn), if_neg (other hb hn)]
    exact ih (fun n hn => refers n (refers_snoc.mpr (.inl hn))) hn
  | added _ _ hb ih =>
    rw [lookup_known_snoc, if_neg (other hb hn)]
    exact ih refers hn
  | removed _ _ ha ih =>
    rw [lookup_known_snoc, if_neg (other ha hn)]
    exact ih (fun n hn => refers n (refers_snoc.mpr (.inl hn))) hn

lemma assigns_snoc {b : Binding} {v : List Char} :
    Assigns environment (bs ++ [b]) key v ↔ Assigns environment bs key v ∨
      (fold b.name = key.name.toList ∧
        b.value.map (expand (known (variablesOf environment) bs)) = some v) := by
  constructor
  · rintro ⟨before, b', later, raw, hbs, named, hraw, rfl⟩
    rcases List.eq_nil_or_concat later with rfl | ⟨later, c, rfl⟩
    · obtain ⟨rfl, last⟩ := List.append_inj' hbs rfl
      cases last
      exact .inr ⟨named, by rw [hraw]; rfl⟩
    · have hbs : bs ++ [b] = before ++ b' :: later ++ [c] := by simpa using hbs
      obtain ⟨rfl, -⟩ := List.append_inj' hbs rfl
      exact .inl ⟨before, b', later, raw, rfl, named, hraw, rfl⟩
  · rintro (⟨before, b', later, raw, rfl, named, hraw, rfl⟩ | ⟨named, value⟩)
    · exact ⟨before, b', later ++ [b], raw, by simp, named, hraw, rfl⟩
    · obtain ⟨raw, hraw, rfl⟩ := Option.map_eq_some_iff.mp value
      exact ⟨bs, b, [], raw, rfl, named, hraw, rfl⟩

lemma RestyledFile.assigns (h : RestyledFile referred bs bs')
    (henv : RestyledEnvironment referred environment environment')
    (refers : ∀ n, Refers bs n → referred n) (key : Key) (v : List Char) :
    Assigns environment bs key v ↔ Assigns environment' bs' key v := by
  induction h with
  | nil => simp [Assigns]
  | kept b h ih =>
    have earlier := fun n hn => refers n (refers_snoc.mpr (.inl hn))
    rw [assigns_snoc, assigns_snoc, ih earlier,
      expand_restyled (fun n => RestyledFile.lookup h henv earlier) fun n hn =>
        refers n (refers_snoc.mpr (.inr hn))]
  | @recased bs bs' a b h same value _ _ ih =>
    have earlier := fun n hn => refers n (refers_snoc.mpr (.inl hn))
    rw [assigns_snoc, assigns_snoc, ih earlier, same, ← value,
      expand_restyled (fun n => RestyledFile.lookup h henv earlier) fun n hn =>
        refers n (refers_snoc.mpr (.inr hn))]
  | added _ foreign _ ih =>
    rw [assigns_snoc, ih refers]
    simp [foreign key]
  | removed _ foreign _ ih =>
    rw [assigns_snoc, ih fun n hn => refers n (refers_snoc.mpr (.inl hn))]
    simp [foreign key]

lemma find?_restyled (h : UnambiguousFile bs) (h' : UnambiguousFile bs')
    (file : RestyledFile referred bs bs')
    (henv : RestyledEnvironment referred environment environment')
    (refers : ∀ n, Refers bs n → referred n) :
    find? environment' (resolve (variablesOf environment') bs') =
      find? environment (resolve (variablesOf environment) bs) := by
  funext key
  rw [find?_eq, find?_eq, RestyledEnvironment.chosen henv]
  congr 1
  ext v
  rw [fromFile_eq_some h, fromFile_eq_some h']
  simp only [RestyledFile.assigns file henv refers key]

/-! ### Loading -/

/-- **Settings are resolved by their names.** Let no two variables of an environment have the same
name but for case, and no two entries of an environment file, unless neither of these has a value.
Then there is one text to choose for each setting: that of the variable with its name, in any case,
else the one that the file assigns to it, else none. The settings that are loaded are those of the
chosen texts, with their defaults where none was chosen. They can be loaded exactly if each chosen
text can be read, whatever else stands in the file. And an environment and a file that differ in
values with foreign names, and in the case of names, lead to the same, if no value refers to the
names at which they differ. -/
theorem settings_resolved (environment : Environment) (text : String)
    (distinct : Unambiguous environment) (distinct' : UnambiguousFile (bindings text.toList)) :
    ∃ chosen : Key → Option String,
      (∀ key c, Chooses environment (bindings text.toList) key c ↔ chosen key = c) ∧
      (∀ s, load environment (some text) = .valid s ↔ ∀ key, s.Holds key (chosen key)) ∧
      ((∃ s, load environment (some text) = .valid s) ↔
        ∀ key v, chosen key = some v → key.Accepts v) ∧
      ∀ environment' text', UnambiguousFile (bindings text'.toList) →
        RestyledEnvironment (Refers (bindings text.toList)) environment environment' →
        RestyledFile (Refers (bindings text.toList)) (bindings text.toList)
          (bindings text'.toList) →
        load environment' (some text') = load environment (some text) := by
  refine ⟨find? environment (resolve (variablesOf environment) (bindings text.toList)),
    fun key c => chooses_iff distinct distinct', fun s => ?_, ?_,
    fun environment' text' distinct'' restyled restyled' => ?_⟩
  · exact ofTexts_eq_valid
  · exact exists_ofTexts
  · rw [load_eq, load_eq]
    exact congrArg ofTexts
      (find?_restyled distinct' distinct'' restyled' restyled fun _ refers => refers)

def levelEntry (name : String) : Binding := ⟨name.toList, some "$\x7bL\x7d".toList⟩

/-- The entry that tells the level. -/
def toldEntry : Binding := ⟨"L".toList, some "WARNING".toList⟩

def vagueEntry : Binding := ⟨"use_mock_blogger".toList, some "maybe".toList⟩

/-- A file with a level that refers to another entry. -/
def plainFile : String := "L=WARNING\nlog_level=$\x7bL\x7d\nuse_mock_blogger=maybe"

/-- The same in other words, with an entry that no setting has the name of. -/
def wordyFile : String :=
  "export L = 'WARNING'\nEXTRA\nLog_Level=\"$\x7bL\x7d\"\nuse_mock_blogger=maybe"

lemma bindings_plainFile :
    bindings plainFile.toList = [toldEntry, levelEntry "log_level", vagueEntry] := by decide +kernel

lemma bindings_wordyFile : bindings wordyFile.toList =
    [toldEntry, ⟨"EXTRA".toList, none⟩, levelEntry "Log_Level", vagueEntry] := by decide +kernel

lemma refers_plainFile {n : List Char} (h : Refers (bindings plainFile.toList) n) :
    n = ['L'] := by
  have values : [toldEntry, levelEntry "log_level", vagueEntry].flatMap
      (fun b => references (b.value.getD [])) = [['L']] := by decide +kernel
  rw [bindings_plainFile] at h
  obtain ⟨b, hb, raw, value, hn⟩ := h
  rw [← List.mem_singleton, ← values, List.mem_flatMap]
  exact ⟨b, hb, by rwa [value]⟩

/-- The level is taken from the file, and the switch from the environment. -/
theorem wordyFile_resolved :
    load [("HOME", "/"), ("USE_MOCK_BLOGGER", "yes")] (some wordyFile) =
      .valid ⟨"", "", "", Client.defaultBaseUrl, Client.defaultTimeout, true, .warning⟩ := by
  have distinct : Unambiguous [("use_mock_blogger", "yes")] := List.pairwise_singleton _ _
  have distinct' : UnambiguousFile (bindings plainFile.toList) := by
    rw [bindings_plainFile, UnambiguousFile]
    decide
  have distinct'' : UnambiguousFile (bindings wordyFile.toList) := by
    rw [bindings_wordyFile, UnambiguousFile]
    decide
  have unreferred {n : List Char} (h : n ≠ ['L']) : ¬ Refers (bindings plainFile.toList) n :=
    mt refers_plainFile h
  have environments : RestyledEnvironment (Refers (bindings plainFile.toList))
      ([] ++ [("use_mock_blogger", "yes")])
      ([] ++ [("HOME", "/")] ++ [("USE_MOCK_BLOGGER", "yes")]) :=
    .recased (.added .nil (foreign_of_all (by decide)) (unreferred (by decide))) (by decide) rfl
      (unreferred (by decide)) (unreferred (by decide))
  have files : RestyledFile (Refers (bindings plainFile.toList))
      ([] ++ [toldEntry] ++ [levelEntry "log_level"] ++ [vagueEntry])
      ([] ++ [toldEntry] ++ [⟨"EXTRA".toList, none⟩] ++ [levelEntry "Log_Level"] ++ [vagueEntry]) :=
    .kept _ (.recased
      (.added (.kept _ .nil) (foreign_of_all (by decide)) (unreferred (by decide)))
      (by decide) rfl (unreferred (by decide)) (unreferred (by decide)))
  obtain ⟨chosen, -, -, -, same⟩ := settings_resolved _ _ distinct distinct'
  refine (same _ wordyFile distinct'' environments ?_).trans ?_
  · rw [bindings_wordyFile]
    nth_rewrite 2 [bindings_plainFile]
    exact files
  · decide +kernel

/-- An entry that has a value, and behind it one of the same name that has none. -/
def bareSource : String := "LOG_LEVEL=DEBUG\nLOG_LEVEL"

/-- An entry without a value takes the place of one that has a value, and the setting has its
default. -/
theorem bare_entry_hides :
    ¬ ∀ (environment : Environment) (text : String), Unambiguous environment →
        (bindings text.toList).Pairwise (fun b b' =>
          b.value ≠ none → b'.value ≠ none → fold b.name ≠ fold b'.name) →
        ∀ key v s, Assigns environment (bindings text.toList) key v →
          (∀ p ∈ environment, fold p.1.toList ≠ key.name.toList) →
          load environment (some text) = .valid s → s.Holds key (some (String.ofList v)) := by
  intro holds
  have entries : bindings bareSource.toList =
      [⟨"LOG_LEVEL".toList, some "DEBUG".toList⟩, ⟨"LOG_LEVEL".toList, none⟩] := by decide +kernel
  have loaded : load [] (some bareSource) =
      .valid ⟨"", "", "", Client.defaultBaseUrl, Client.defaultTimeout, false, .info⟩ := by
    decide +kernel
  have assigned : Assigns [] (bindings bareSource.toList) .logLevel "DEBUG".toList := by
    rw [entries]
    exact ⟨[], _, _, _, rfl, by decide, rfl, by decide +kernel⟩
  have level := holds [] bareSource .nil (by rw [entries]; decide) .logLevel _ _ assigned
    (List.forall_mem_nil _) loaded
  have read : readLogLevel (String.ofList "DEBUG".toList) = .valid .debug := by decide +kernel
  cases read.symm.trans level

end BlogConsole.Settings
