import BlogConsole.Proofs.Client.Session
import BlogConsole.Proofs.Post.Writable
import BlogConsole.Proofs.Text.Integer
import BlogConsole.Proofs.Url.Path
import BlogConsole.Store
import BlogConsole.Task.Work
import Mathlib.Data.List.TakeWhile

/-!
The URLs of calls.

A client with an absolute base URL has a URL for every call whose ids and token are words, unless
the URL gets too long: the ids stand in the path and the token in the query, so they change neither
the scheme nor the host.
-/

namespace BlogConsole

/-! ### Words -/

namespace Text

variable {cs ds : List Char} {c : Char}

/-- A text of letters and digits of ASCII, hyphens and underscores. -/
def Word (cs : List Char) : Prop := ∀ c ∈ cs, c.isAlphanum = true ∨ c = '-' ∨ c = '_'

instance (cs : List Char) : Decidable (Word cs) := List.decidableBAll _ cs

lemma Word.append (h : Word cs) (h' : Word ds) : Word (cs ++ ds) :=
  List.forall_mem_append.mpr ⟨h, h'⟩

lemma Word.bounds (h : Word cs) (hc : c ∈ cs) : 0x20 < c.toNat ∧ c.toNat < 0x7F := by
  rcases h c hc with alphanum | rfl | rfl
  · delta Char.isAlphanum Char.isAlpha Char.isUpper Char.isLower Char.isDigit at alphanum
    simp [UInt32.le_iff_toNat_le] at alphanum
    omega
  · decide
  · decide

lemma Word.uncontrolled (h : Word cs) : Url.Uncontrolled cs := by
  intro c hc
  have := h.bounds hc
  omega

lemma Word.ascii (h : Word cs) : Ascii cs := by
  intro c hc
  have := h.bounds hc
  omega

lemma word_toDigits (n : Nat) : Word (Nat.toDigits 10 n) := fun c hc =>
  .inl (by rw [Char.isAlphanum, isDigit_toDigits n c hc, Bool.or_true])

end Text

lemma Store.word_pageToken (page : Int) : Text.Word (pageToken page).toList := by
  have number : Text.Word (toString page).toList := by
    cases page with
    | ofNat n =>
      rw [Int.ofNat_eq_natCast, Text.toList_toString_natCast]
      exact Text.word_toDigits n
    | negSucc n =>
      rw [Text.toList_toString_negSucc]
      exact List.forall_mem_cons.mpr ⟨.inr (.inl rfl), Text.word_toDigits (n + 1)⟩
  rw [pageToken, String.toList_append]
  exact .append (by decide) number

/-! ### Calls -/

/-- A draft that can be sent and that comes back: its texts have no lone surrogates, and if it tells
when it was updated, then without a fraction of a minute in the offset. -/
structure Post.Sendable (p : Post) : Prop where
  texts : ∀ s ∈ p.texts, Text.Writable s.toList
  updated : ∀ t ∈ p.updated, t.IsWhole

/-- The calls of tasks whose draft can be sent, or whose id or token is a word. -/
inductive Call.Sendable : Call → Prop
  | insert {p : Post} : p.Sendable → Sendable (.insert (.post p))
  | get {id : String} : Text.Word id.toList → Sendable (.get (.text id) (some Work.postFields))
  | list {token : Option String} :
      (∀ t ∈ token, Text.Word t.toList) → Sendable (.list (some Work.listFields) token none)

lemma Call.Sendable.fit {call : Call} (h : call.Sendable) : Client.callFault? call = none := by
  cases h <;> rfl

lemma Client.bodyFault?_post {p : Post} :
    bodyFault? (.insert (.post p)) = none ↔ ∀ s ∈ p.texts, Text.Writable s.toList := by
  rw [← p.writable_toWire, ← Text.encodeError?_unicode]
  exact Option.map_eq_none_iff

lemma Call.Sendable.written {call : Call} (h : call.Sendable) : Client.bodyFault? call = none := by
  cases h with
  | insert draft => exact Client.bodyFault?_post.mpr draft.texts
  | get | list => rfl

namespace Client

variable {c : Client} {session : Session} {blog : Option String} {call : Call}

/-- The place of a call below the base URL is made of words and slashes. -/
lemma endpoint_chars (hb : ∀ b ∈ blog, Text.Word b.toList) (h : call.Sendable) :
    ∀ ch ∈ (endpoint blog call).toList, ch = '/' ∨ Text.Word [ch] := by
  have word {cs : List Char} (hcs : Text.Word cs) : ∀ ch ∈ cs, ch = '/' ∨ Text.Word [ch] :=
    fun ch hc => .inr (List.forall_mem_singleton.mpr (hcs ch hc))
  have name : Text.Word (Display.orNone blog).toList := by
    cases blog with
    | none => decide
    | some b => exact hb b rfl
  have slash : ∀ ch ∈ "/".toList, ch = '/' ∨ Text.Word [ch] :=
    List.forall_mem_singleton.mpr (.inl rfl)
  have posts : ∀ ch ∈ (endpoint blog (.list none none none)).toList,
      ch = '/' ∨ Text.Word [ch] := by
    have spelled : (endpoint blog (.list none none none)).toList =
        "blogs".toList ++ "/".toList ++ (Display.orNone blog).toList ++
          ("/".toList ++ "posts".toList) := by
      simp only [endpoint, toString, String.toList_append]
      rfl
    simp only [spelled, List.forall_mem_append]
    exact ⟨⟨⟨word (by decide), slash⟩, word name⟩, slash, word (by decide)⟩
  cases h with
  | @insert p =>
    have spelled : endpoint blog (.insert (.post p)) =
        endpoint blog (.list none none none) ++ "/" := rfl
    rw [spelled, String.toList_append, List.forall_mem_append]
    exact ⟨posts, slash⟩
  | @get id hid =>
    have spelled : endpoint blog (.get (.text id) (some Work.postFields)) =
        endpoint blog (.list none none none) ++ "/" ++ id := rfl
    rw [spelled, String.toList_append, String.toList_append, List.forall_mem_append,
      List.forall_mem_append]
    exact ⟨⟨posts, slash⟩, word hid⟩
  | list => exact posts

lemma uncontrolled_endpoint (hb : ∀ b ∈ blog, Text.Word b.toList) (h : call.Sendable) :
    Url.Uncontrolled (endpoint blog call).toList := by
  intro ch hc
  obtain rfl | word := endpoint_chars hb h ch hc
  · decide
  · exact word.uncontrolled ch List.mem_cons_self

lemma writable_endpoint (hb : ∀ b ∈ blog, Text.Word b.toList) (h : call.Sendable) :
    Text.Writable (endpoint blog call).toList := by
  intro ch hc
  obtain rfl | word := endpoint_chars hb h ch hc
  · decide
  · exact word.ascii.writable ch List.mem_cons_self

lemma paramsFault?_of_sendable (hk : Text.Writable c.apiKey.toList)
    (h : call.Sendable) : c.paramsFault? call = none := by
  have short : hasLongNumber call = false := by cases h <;> rfl
  have key : ∀ p ∈ (if c.apiKey = "" then [] else [("key", c.apiKey)]),
      Text.encodeError? .unicode p.2.toList = none := by
    split
    · exact List.forall_mem_nil _
    · exact List.forall_mem_singleton.mpr (Text.encodeError?_unicode.mpr hk)
  have each : ∀ p ∈ c.params call, Text.encodeError? .unicode p.2.toList = none := by
    cases h with
    | insert draft => exact key
    | get id => exact List.forall_mem_cons.mpr ⟨by decide, key⟩
    | @list token ht =>
      cases token with
      | none => exact List.forall_mem_cons.mpr ⟨by decide, key⟩
      | some t =>
        refine List.forall_mem_cons.mpr ⟨by decide, List.forall_mem_cons.mpr ⟨?_, key⟩⟩
        exact Text.encodeError?_unicode.mpr (ht t rfl).ascii.writable
  rw [paramsFault?, short, List.findSome?_eq_none_iff.mpr each]
  rfl

/-- An open client whose base URL has a scheme and a readable host, and whose base URL and key can
be written. -/
structure Ready (c : Client) (session : Session) : Prop where
  session : c.session = some session
  base : ∃ u, Url.parse c.baseUrl.toList = .ok u ∧ u.isAbsolute = true ∧
    Url.nameFault? u.host = none
  written : Text.Writable c.baseUrl.toList
  key : Text.Writable c.apiKey.toList

/-- The URL of a call does not get too long. -/
def Fits (c : Client) (blog : Option String) (call : Call) : Prop :=
  c.url blog call ≠ .error (.badUrl .tooLong) ∧
    ∀ name, c.url blog call ≠ .error (.badUrl (.componentTooLong name))

lemma fits_of_ok {url : Url} (h : c.url blog call = .ok url) : c.Fits blog call := by
  rw [Fits, h]
  exact ⟨nofun, nofun⟩

/-- **Calls that can be sent have a request**, to a URL with a scheme. -/
theorem Ready.request (hc : c.Ready session) (hb : ∀ b ∈ blog, Text.Word b.toList)
    (h : call.Sendable) (fits : c.Fits blog call) :
    ∃ request, c.request session blog call = .ok request ∧ request.url.scheme ≠ [] := by
  obtain ⟨base, parsed, absolute, name⟩ := hc.base
  have place : (c.baseUrl ++ "/" ++ endpoint blog call).toList =
      c.baseUrl.toList ++ '/' :: (endpoint blog call).toList := by
    simp only [String.toList_append, List.append_assoc]
    rfl
  have writable : Text.Writable (c.baseUrl ++ "/" ++ endpoint blog call).toList := by
    rw [place, Text.writable_append, Text.writable_cons]
    exact ⟨hc.written, by decide, writable_endpoint hb h⟩
  have below := Url.read_below (Url.read_of_parse parsed) absolute (uncontrolled_endpoint hb h)
  rw [← place, ← Url.parse_eq_read writable] at below
  have addressed := c.url_addressed blog call
  generalize made : c.url blog call = x at addressed
  obtain long | ⟨u, below, scheme, host⟩ := below
  · cases addressed with
    | unreadable read =>
      obtain rfl := Except.error.inj (long.symm.trans read)
      exact absurd made fits.1
    | badParams read | tooLong _ read | badBody read | badName read | placed read =>
      cases long.symm.trans read
  · have absolute : u.isAbsolute = true := by rw [Url.isAbsolute, scheme, host]; exact absolute
    have target : u.target = u := by rw [Url.target, if_pos absolute]
    have same {v : Url}
        (read : Url.parse (c.baseUrl ++ "/" ++ endpoint blog call).toList = .ok v) : u = v :=
      Except.ok.inj (below.symm.trans read)
    cases addressed with
    | unreadable read => cases below.symm.trans read
    | badParams _ bad => cases (paramsFault?_of_sendable hc.key h).symm.trans bad
    | tooLong part => exact absurd made (fits.2 part)
    | badBody _ _ bad => cases h.written.symm.trans bad
    | badName read _ bad =>
      obtain rfl := same read
      rw [target, host, name] at bad
      cases bad
    | placed read =>
      obtain rfl := same read
      rw [Client.request, made]
      refine ⟨_, rfl, ?_⟩
      dsimp only
      rw [target]
      exact fun none => by simp [Url.isAbsolute, none] at absolute

end Client

end BlogConsole
