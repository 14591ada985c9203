import BlogConsole.Url.Basic
import Mathlib.Data.List.Basic

/-!
URLs below a base: what a URL keeps when its text goes on after a slash.

Scheme and authority end before the first slash of the path. So a text that goes on there is read as
a URL with the same scheme and the same host, unless it is too long.
-/

namespace BlogConsole.Url

variable {cs : List Char} {p p' : Parts} {u : Url}

/-! ### Parts -/

/-- A scan does not go beyond a character that stops it. -/
lemma takeWhile_stop {q : Char → Bool} {c : Char} (hc : q c = false) (cs rest : List Char) :
    (cs ++ c :: rest).takeWhile q = cs.takeWhile q := by
  induction cs with
  | nil => simp [hc]
  | cons d cs ih =>
    cases hd : q d with
    | false => simp [hd]
    | true => simp [hd, ih]

/-- What a scan leaves goes on with the character that stops it. -/
lemma dropWhile_stop {q : Char → Bool} {c : Char} (hc : q c = false) (cs rest : List Char) :
    (cs ++ c :: rest).dropWhile q = cs.dropWhile q ++ c :: rest := by
  induction cs with
  | nil => simp [hc]
  | cons d cs ih =>
    cases hd : q d with
    | false => simp [hd]
    | true => simp [hd, ih]

lemma splitScheme_below (cs rest : List Char) :
    splitScheme (cs ++ '/' :: rest) = ((splitScheme cs).1, (splitScheme cs).2 ++ '/' :: rest) := by
  have slash : isSchemeChar '/' = false := by decide
  unfold splitScheme
  rw [takeWhile_stop slash, dropWhile_stop slash]
  cases cs.dropWhile isSchemeChar with
  | nil => rfl
  | cons c body =>
    by_cases colon : c = ':'
    · subst colon
      simp only [List.cons_append]
      split <;> rfl
    · simp [colon]

namespace Parts

/-- The scheme and the authority stay as they are in a text that goes on after a slash. -/
lemma ofText_below (authority : (ofText cs).authority ≠ []) (rest : List Char) :
    (ofText (cs ++ '/' :: rest)).scheme = (ofText cs).scheme ∧
      (ofText (cs ++ '/' :: rest)).authority = (ofText cs).authority := by
  unfold ofText at authority ⊢
  dsimp only at authority ⊢
  rw [splitScheme_below]
  refine ⟨rfl, ?_⟩
  split at authority
  · next body slashes =>
    rw [slashes]
    exact takeWhile_stop (by decide) body rest
  · exact absurd rfl authority

end Parts

/-! ### Reading -/

/-- A URL has its scheme from its parts, and its user information and its host from their
authority. -/
lemma ofParts_ok (h : ofParts p = .ok u) :
    u.scheme = p.scheme.map Char.toLower ∧ u.userinfo = (splitAuthority p.authority).1 ∧
      normalHost (splitAuthority p.authority).2.1 = .ok u.host ∧
      ∃ port, normalPort (p.scheme.map Char.toLower) (splitAuthority p.authority).2.2 =
        .ok port := by
  unfold ofParts at h
  dsimp only at h
  cases host : normalHost (splitAuthority p.authority).2.1 with
  | error e => rw [host] at h; cases h
  | ok name =>
    cases port : normalPort (p.scheme.map Char.toLower) (splitAuthority p.authority).2.2 with
    | error e => rw [host, port] at h; cases h
    | ok n =>
      rw [host, port] at h
      dsimp only [bind, Except.bind] at h
      split at h
      · cases h
      · split at h
        · cases h
        · cases h
          exact ⟨rfl, rfl, rfl, n, rfl⟩

lemma ofParts_of_scheme (hp : p.scheme ≠ []) {host : List Char} {port : Option Int}
    (hh : normalHost (splitAuthority p.authority).2.1 = .ok host)
    (hn : normalPort (p.scheme.map Char.toLower) (splitAuthority p.authority).2.2 = .ok port) :
    ∃ u, ofParts p = .ok u ∧ u.scheme = p.scheme.map Char.toLower ∧ u.host = host := by
  have scheme : (p.scheme.map Char.toLower).isEmpty = false := by simpa using hp
  unfold ofParts
  dsimp only
  rw [hh, hn]
  dsimp only [bind, Except.bind]
  simp only [scheme, Bool.false_and, Bool.false_eq_true, if_false]
  exact ⟨_, rfl, rfl, rfl⟩

/-- A URL with scheme and host is made of parts with scheme and authority, and any other parts with
these lead to the same host. -/
lemma ofParts_absolute (h : ofParts p = .ok u) (hu : u.isAbsolute = true) :
    p.scheme ≠ [] ∧ p.authority ≠ [] ∧
      ∀ p' : Parts, p'.scheme = p.scheme → p'.authority = p.authority →
        ∃ u', ofParts p' = .ok u' ∧ u'.scheme = u.scheme ∧ u'.host = u.host := by
  obtain ⟨scheme, -, host, port, hport⟩ := ofParts_ok h
  have filled : u.scheme ≠ [] ∧ u.host ≠ [] := by simpa [isAbsolute] using hu
  have named : p.scheme ≠ [] := fun none => filled.1 (by rw [scheme, none]; rfl)
  refine ⟨named, fun none => filled.2 ?_, fun p' sameScheme sameAuthority => ?_⟩
  · rw [none] at host
    exact (Except.ok.inj host).symm
  · rw [scheme]
    rw [← sameAuthority] at host hport
    rw [← sameScheme] at hport named ⊢
    exact ofParts_of_scheme named host hport

/-- A text without control characters of ASCII. -/
def Uncontrolled (cs : List Char) : Prop := ∀ c ∈ cs, ¬ (c.toNat < 0x20 ∨ c.toNat = 0x7F)

instance (cs : List Char) : Decidable (Uncontrolled cs) := List.decidableBAll _ cs

@[simp] lemma uncontrolled_append {ds : List Char} :
    Uncontrolled (cs ++ ds) ↔ Uncontrolled cs ∧ Uncontrolled ds := List.forall_mem_append

lemma controlIn?_eq_none : controlIn? cs = none ↔ Uncontrolled cs := by
  have placed : (∀ q ∈ cs.zipIdx, ¬ (q.1.toNat < 0x20 ∨ q.1.toNat = 0x7F)) ↔
      ∀ c ∈ cs.zipIdx.map Prod.fst, ¬ (c.toNat < 0x20 ∨ c.toNat = 0x7F) := by
    simp only [List.forall_mem_map]
  rw [List.zipIdx_map_fst] at placed
  rw [controlIn?, List.find?_eq_none, Uncontrolled, ← placed]
  simp only [decide_eq_true_eq, Bool.or_eq_true]

lemma read_ok (h : read cs = .ok u) :
    controlIn? cs = none ∧ ∃ v, ofParts (.ofText cs) = .ok v ∧ v.escaped = u := by
  rw [read, screen] at h
  split at h
  · cases h
  · split at h
    · cases h
    · next none =>
      cases made : ofParts (.ofText cs) with
      | error e => rw [made] at h; cases h
      | ok v => rw [made] at h; exact ⟨none, v, rfl, Except.ok.inj h⟩

lemma read_of_parse (h : parse cs = .ok u) : read cs = .ok u := by
  unfold parse at h
  unfold read
  cases screened : screen cs with
  | error e => rw [screened] at h; cases h
  | ok _ =>
    rw [screened] at h
    dsimp only [bind, Except.bind] at h ⊢
    split at h
    · cases h
    · cases made : ofParts (.ofText cs) with
      | error e => rw [made] at h; cases h
      | ok v =>
        rw [made] at h
        dsimp only at h
        repeat' split at h
        all_goals cases h
        rfl

/-- **A URL below another one leads to the same host.** The text of a URL with a scheme and a host
may go on after a slash, without control characters: it is a URL with the same scheme and the same
host then, unless it is too long. -/
theorem read_below (h : read cs = .ok u) (hu : u.isAbsolute = true) {rest : List Char}
    (hrest : Uncontrolled rest) :
    read (cs ++ '/' :: rest) = .error .tooLong ∨
      ∃ u', read (cs ++ '/' :: rest) = .ok u' ∧ u'.scheme = u.scheme ∧ u'.host = u.host := by
  obtain ⟨base, v, made, rfl⟩ := read_ok h
  obtain ⟨scheme, authority, below⟩ := ofParts_absolute made hu
  obtain ⟨sameScheme, sameAuthority⟩ := Parts.ofText_below authority rest
  have whole : controlIn? (cs ++ '/' :: rest) = none := by
    rw [controlIn?_eq_none] at base ⊢
    exact List.forall_mem_append.mpr ⟨base, List.forall_mem_cons.mpr ⟨by decide, hrest⟩⟩
  rw [read, screen, whole]
  split
  · exact .inl rfl
  · obtain ⟨w, made', sameScheme', sameHost⟩ := below _ sameScheme sameAuthority
    refine .inr ⟨w.escaped, ?_, sameScheme', sameHost⟩
    dsimp only [bind, Except.bind]
    rw [made']
    rfl

/-! ### User information -/

/-- The user information of a text that is read as a URL, as it is written. -/
def userOf (cs : List Char) : List Char := (splitAuthority (Parts.ofText cs).authority).1

lemma splitAuthority_user {authority : List Char} (h : '@' ∉ authority) :
    (splitAuthority authority).1 = [] := by
  have none : splitLast '@' authority = none := if_neg (by simpa using h)
  rw [splitAuthority, none]
  rfl

def inAuthority (c : Char) : Bool := c ≠ '/' && !(c = '?' || c = '#')

/-- The authority after a scheme: what stands between two slashes and the path. -/
def authorityAfter : List Char → List Char
  | '/' :: '/' :: rest => rest.takeWhile inAuthority
  | _ => []

lemma ofText_authority (cs : List Char) :
    (Parts.ofText cs).authority = authorityAfter (splitScheme cs).2 := by
  unfold Parts.ofText authorityAfter
  dsimp only
  generalize (splitScheme cs).2 = after
  split
  · rfl
  · simp_all

lemma authorityAfter_of_ne {c : Char} (h : c ≠ '/') (cs : List Char) :
    authorityAfter (c :: cs) = [] ∧ authorityAfter ('/' :: c :: cs) = [] := by
  simp [authorityAfter, h]

/-- A text that goes on after a slash with a name has no user information, unless it had some
before. The name may become the host. -/
lemma userOf_below (h : userOf cs = []) {name : List Char} (filled : name ≠ [])
    (plain : ∀ c ∈ name, c ≠ '/' ∧ c ≠ '@') (rest : List Char) :
    userOf (cs ++ '/' :: (name ++ '/' :: rest)) = [] := by
  have stop : inAuthority '/' = false := by decide
  have host : '@' ∉ (name ++ '/' :: rest).takeWhile inAuthority := by
    rw [takeWhile_stop stop]
    exact fun mem => (plain _ ((List.takeWhile_sublist _).subset mem)).2 rfl
  have unnamed {authority : List Char} (none : authority = []) :
      (splitAuthority authority).1 = [] :=
    splitAuthority_user (none ▸ List.not_mem_nil)
  obtain ⟨c, name, rfl⟩ := List.exists_cons_of_ne_nil filled
  have unslashed : c ≠ '/' := (plain c (List.mem_cons_self ..)).1
  rw [userOf, ofText_authority] at h
  rw [userOf, ofText_authority, splitScheme_below]
  -- where the authority begins depends on the slashes after the scheme
  match after : (splitScheme cs).2 with
  | [] => exact unnamed (authorityAfter_of_ne unslashed _).2
  | [d] =>
    by_cases slash : d = '/'
    · subst slash
      exact splitAuthority_user host
    · exact unnamed (authorityAfter_of_ne slash _).1
  | d :: e :: body =>
    by_cases slash : d = '/'
    · subst slash
      by_cases slash' : e = '/'
      · subst slash'
        rw [after, authorityAfter] at h
        dsimp only [List.cons_append]
        rwa [authorityAfter, takeWhile_stop stop]
      · exact unnamed (authorityAfter_of_ne slash' _).2
    · exact unnamed (authorityAfter_of_ne slash _).1

lemma parse_userinfo (h : parse cs = .ok u) (none : userOf cs = []) : u.userinfo = [] := by
  obtain ⟨-, v, made, rfl⟩ := read_ok (read_of_parse h)
  obtain ⟨-, userinfo, -⟩ := ofParts_ok made
  have unnamed : v.userinfo = [] := userinfo.trans none
  exact congrArg (escapeExcept _) unnamed

/-! ### Parameters -/

def queryOf (params : List (List Char × List Char)) : Option (List Char) :=
  if params.isEmpty then none else some (form params)

/-- Parameters change nothing but the query, if no part gets too long. -/
lemma withParams_ok (u : Url) (params : List (List Char × List Char)) :
    (∃ name, u.withParams params = .error (.componentTooLong name)) ∨
      u.withParams params = .ok { u with query := queryOf params } := by
  unfold withParams
  rw [← queryOf]
  dsimp only
  repeat' split
  all_goals first | exact .inl ⟨_, rfl⟩ | exact .inr rfl

end BlogConsole.Url
