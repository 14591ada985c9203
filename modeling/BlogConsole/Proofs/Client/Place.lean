import BlogConsole.Proofs.Client.Query
import BlogConsole.Proofs.Url.Segment
import Mathlib.Data.List.DropRight

/-!
Where the request for a post goes.

The ids of a call stand in the path of its request as they are given, and the path is read like any
other. So an id names its post if reading leaves it as it is: it has no slash and no mark that ends
a path, is not made of dots, and has no escape. With any other id the request goes somewhere else.
-/

namespace BlogConsole

open Url (IsBase IsSegment LeadsTo joined postSegments)

def Url.Reaches (base url : Url) (blog id : String) : Prop :=
  ∃ rest, url.path = base.path ++ rest ∧ LeadsTo blog.toList id.toList rest

namespace Client

variable {c : Client} {blog id : String} {fields : Option String} {ss : List Step}

def Sends (c : Client) (blog id : String) (request : Request) : Prop :=
  ∃ replies fields,
    request ∈ Event.requests (c.answer replies (some blog) (.get (.text id) fields)).2.1

lemma base_new (accessToken apiKey : String) {base : String} (timeout : Double)
    (plain : ∀ ch ∈ base.toList, Url.inPath ch = true) :
    IsBase (Client.new accessToken apiKey base timeout).baseUrl.toList := by
  have text : (Client.new accessToken apiKey base timeout).baseUrl.toList =
      base.toList.rdropWhile (· = '/') := String.toList_ofList
  rw [text]
  refine ⟨fun ch h => plain ch ((List.rdropWhile_prefix _ _).subset h), fun last => ?_⟩
  have filled : base.toList.rdropWhile (· = '/') ≠ [] := by
    intro none
    rw [none] at last
    cases last
  rw [List.getLast?_eq_some_getLast filled, Option.some.injEq] at last
  have unslashed := List.rdropWhile_last_not (fun ch : Char => decide (ch = '/')) base.toList filled
  rw [last] at unslashed
  exact unslashed rfl

lemma base_fixed (c : Client) (fixed : ∀ s ∈ ss, s.base? = none) :
    (c.after ss).baseUrl = c.baseUrl := by
  rw [baseUrl_after, latest, List.filterMap_eq_nil_iff.mpr fixed]
  rfl

lemma endpoint_get (blog id : String) (fields : Option String) :
    (endpoint (some blog) (.get (.text id) fields)).toList =
      joined (postSegments blog.toList id.toList) := by
  rw [Url.joined_postSegments]
  simp [endpoint, Display.orNone, Argument.text, Argument.plainText, Json.plainText, toString]

lemma sends_place (base : IsBase c.baseUrl.toList) {request : Request}
    (h : c.Sends blog id request) :
    ∃ (u v : Url) (place : List Char) (bare : Bool), Url.read (c.baseUrl ++ "/").toList = .ok v ∧
      v.isAbsolute = u.isAbsolute ∧ (u.isAbsolute = true → bare = false) ∧
      request.url.path = u.target.path ∧
      v.path = Url.writtenPath (Url.settled bare (place ++ ['/'])) ∧
      u.path = Url.writtenPath (Url.settled bare (place ++
        '/' :: (joined (postSegments blog.toList id.toList)).takeWhile Url.inPath)) := by
  obtain ⟨replies, fields, h⟩ := h
  obtain ⟨session, -, made, -⟩ := request_of_mem h
  obtain ⟨u, read, -, url⟩ := url_ok (request_ok made).1
  have place : (c.baseUrl ++ "/" ++ endpoint (some blog) (.get (.text id) fields)).toList =
      c.baseUrl.toList ++ '/' :: joined (postSegments blog.toList id.toList) := by
    rw [← endpoint_get blog id fields]
    simp
  have below : (c.baseUrl ++ "/").toList = c.baseUrl.toList ++ ['/'] := by simp
  have named : (joined (postSegments blog.toList id.toList)).head? ≠ some '/' := by
    rw [Url.joined_postSegments]
    nofun
  rw [place] at read
  obtain ⟨v, place, bare, base, absolute, dotless, short, long⟩ :=
    Url.read_base base named (Url.read_of_parse read)
  exact ⟨u, v, place, bare, below ▸ base, absolute, dotless, by rw [url], short, long⟩

variable {request : Request} {place : Url}

/-- A request for ids that are segments leads to their post. -/
lemma reaches_of_isSegment (base : IsBase c.baseUrl.toList) (h : c.Sends blog id request)
    (read : Url.read (c.baseUrl ++ "/").toList = .ok place) (hb : IsSegment blog.toList)
    (hi : IsSegment id.toList) : place.target.Reaches request.url blog id := by
  obtain ⟨u, v, front, bare, read', same, -, path, short, long⟩ := sends_place base h
  obtain rfl := Except.ok.inj (read.symm.trans read')
  obtain ⟨rest, split, leads⟩ := Url.leadsTo_below hb hi bare front
  have named : rest ≠ [] ∧ rest.head? ≠ some '/' := by
    refine ⟨?_, by rw [leads.head]; decide⟩
    rintro rfl
    cases leads.head
  rw [← long, ← short] at split
  exact ⟨rest, path.trans (Url.target_below same split named.1 named.2), leads⟩

/-- Below an absolute base, a request leads to a post only if its ids are segments. -/
lemma isSegment_of_reaches (base : IsBase c.baseUrl.toList) (h : c.Sends blog id request)
    (read : Url.read (c.baseUrl ++ "/").toList = .ok place) (absolute : place.isAbsolute = true)
    (reaches : place.target.Reaches request.url blog id) :
    IsSegment blog.toList ∧ IsSegment id.toList := by
  obtain ⟨u, v, front, bare, read', same, dotless, path, short, long⟩ := sends_place base h
  obtain rfl := Except.ok.inj (read.symm.trans read')
  obtain ⟨rest, below, leads⟩ := reaches
  have kept (w : Url) (hw : w.isAbsolute = true) : w.target = w := by rw [Url.target, if_pos hw]
  rw [same] at absolute
  rw [path, kept u absolute, kept place (same ▸ absolute), long, short,
    dotless absolute] at below
  exact Url.isSegment_of_leadsTo below leads

/-- **Ids that are segments name their post, and no others do.** Let a client be made with a base
URL that has no query and no fragment, and let it keep this base URL whatever happens to it. If the
two ids of a post are segments and a request is sent for the post, the request leads to it: its path
is that of the base URL and then four segments, of which the second one is read as the id of the
blog and the last one as that of the post. So no two posts with such ids are asked for at the same
path. If the base URL is an absolute one, the request leads to the post only then. The base URL
is read here without a look at whether it may be escaped. -/
theorem get_reaches (accessToken apiKey base : String) (timeout : Double) (ss : List Step)
    (plain : ∀ ch ∈ base.toList, Url.inPath ch = true) (fixed : ∀ s ∈ ss, s.base? = none) :
    let c := (Client.new accessToken apiKey base timeout).after ss
    ∀ (blog id : String) (request : Request), c.Sends blog id request →
      ∃ place, Url.read (c.baseUrl ++ "/").toList = .ok place ∧
        (IsSegment blog.toList → IsSegment id.toList →
          place.target.Reaches request.url blog id ∧
          ∀ (blog' id' : String) (request' : Request), c.Sends blog' id' request' →
            IsSegment blog'.toList → IsSegment id'.toList → request'.url.path = request.url.path →
            blog' = blog ∧ id' = id) ∧
        (place.isAbsolute = true → place.target.Reaches request.url blog id →
          IsSegment blog.toList ∧ IsSegment id.toList) := by
  intro c blog id request sends
  have isBase : IsBase c.baseUrl.toList := by
    rw [base_fixed _ fixed]
    exact base_new accessToken apiKey timeout plain
  obtain ⟨-, place, -, -, read, -⟩ := sends_place isBase sends
  refine ⟨place, read, fun hb hi => ?_, isSegment_of_reaches isBase sends read⟩
  have here := reaches_of_isSegment isBase sends read hb hi
  refine ⟨here, fun blog' id' request' sends' hb' hi' same => ?_⟩
  -- the two paths go on in the same way behind the base
  obtain ⟨rest, below, leads⟩ := here
  obtain ⟨rest', below', leads'⟩ := reaches_of_isSegment isBase sends' read hb' hi'
  obtain rfl := List.append_cancel_left (below'.symm.trans (same.trans below))
  obtain ⟨blogs, ids⟩ := leads'.unique leads
  exact ⟨String.toList_inj.mp blogs, String.toList_inj.mp ids⟩

def postRequest (path : String) : Request :=
  ⟨"GET", ⟨"https".toList, [], "h".toList, none, path.toList, none, none⟩, none, none, [],
    defaultTimeout⟩

/-- A post is reached whose id is not ASCII, and none is reached with a question mark in its id. -/
theorem accented_reached :
    let c := (Client.new "" "" "https://h/v3/" defaultTimeout).after [.opens]
    c.Sends "b" "é" (postRequest "/v3/blogs/b/posts/%C3%A9") ∧
      c.Sends "b" "a?b" (postRequest "/v3/blogs/b/posts/a") ∧
      ∃ place, Url.read (c.baseUrl ++ "/").toList = .ok place ∧
        place.target.Reaches (postRequest "/v3/blogs/b/posts/%C3%A9").url "b" "é" ∧
        ¬ place.target.Reaches (postRequest "/v3/blogs/b/posts/a").url "b" "a?b" := by
  intro c
  have sends : c.Sends "b" "é" (postRequest "/v3/blogs/b/posts/%C3%A9") :=
    ⟨[], none, by decide +kernel⟩
  have misses : c.Sends "b" "a?b" (postRequest "/v3/blogs/b/posts/a") :=
    ⟨[], none, by decide +kernel⟩
  have segment (cs : List Char) (slash : '/' ∉ cs) (plain : cs.all Url.inPath = true)
      (dots : '.' ∉ cs) (percent : '%' ∉ cs) : IsSegment cs :=
    ⟨slash, List.all_eq_true.mp plain, ⟨by rintro rfl; simp at dots, by rintro rfl; simp at dots⟩,
      Url.not_hasEscape_of_notMem percent⟩
  have reaches := get_reaches "" "" "https://h/v3/" defaultTimeout [.opens]
    (List.all_eq_true.mp (by decide)) (by decide)
  obtain ⟨place, read, here, -⟩ := reaches "b" "é" _ sends
  obtain ⟨place', read', -, only⟩ := reaches "b" "a?b" _ misses
  obtain rfl := Except.ok.inj (read.symm.trans read')
  refine ⟨sends, misses, place, read,
    (here (segment _ (by decide) (by decide) (by decide) (by decide))
      (segment _ (by decide) (by decide) (by decide) (by decide))).1, fun found => ?_⟩
  have absolute : place.isAbsolute = true := by
    obtain rfl := Except.ok.inj (read.symm.trans (show _ = Except.ok _ from rfl))
    rfl
  exact absurd ((only absolute found).2.plain '?' (by decide)) (by decide)

/-- Not every post is asked for at its own place. -/
theorem marked_id_misses :
    ¬ ∀ (base blog id : String) (request : Request) (place : Url),
        (∀ ch ∈ base.toList, Url.inPath ch = true) → blog ≠ "" → id ≠ "" →
        ((Client.new "" "" base defaultTimeout).after [.opens]).Sends blog id request →
        Url.parse ((Client.new "" "" base defaultTimeout).baseUrl ++ "/").toList = .ok place →
        place.target.Reaches request.url blog id := by
  intro always
  have sends : ((Client.new "" "" "https://h" defaultTimeout).after [.opens]).Sends "b" "a?b"
      (postRequest "/blogs/b/posts/a") := ⟨[], none, by decide +kernel⟩
  have plain : ∀ ch ∈ "https://h".toList, Url.inPath ch = true := List.all_eq_true.mp (by decide)
  have found := always "https://h" "b" "a?b" _ _ plain (by decide) (by decide) sends rfl
  have base : IsBase
      ((Client.new "" "" "https://h" defaultTimeout).after [.opens]).baseUrl.toList :=
    base_new "" "" defaultTimeout plain
  exact absurd ((isSegment_of_reaches base sends rfl rfl found).2.plain '?' (by decide)) (by decide)

end Client

end BlogConsole
