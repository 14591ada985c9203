import BlogConsole.Proofs.Client.Session
import BlogConsole.Proofs.Url.Form

/-!
The queries of requests.

The parameters of a call are written as a form, and the form is the query of its request. Reading
the form gives the parameters back, so the service is told what the caller said, whatever characters
it is made of.
-/

namespace BlogConsole

/-- A parameter, unless it is missing. The empty text is a value like any other. -/
def named (name : String) (value : Option String) : List (String × String) :=
  value.toList.map (name, ·)

def Call.parameters : Call → List (String × String)
  | .insert _ => []
  | .get _ fields => named "fields" fields
  | .list fields token maxResults =>
    named "fields" fields ++ named "pageToken" token ++
      named "maxResults" (maxResults.map toString)

namespace Client

/-- The parameter of a key. An empty key is none. -/
def keyParameter (key : String) : List (String × String) := if key = "" then [] else [("key", key)]

variable {c : Client} {replies : Transport} {blog : Option String} {call : Call}
  {request : Request}

lemma params_parts (c : Client) (call : Call) :
    c.params call = call.parameters ++ keyParameter c.apiKey := by
  cases call with
  | insert draft => rfl
  | get id fields => cases fields <;> rfl
  | list fields token maxResults => cases fields <;> cases token <;> cases maxResults <;> rfl

/-- A request that reaches the transport is the one of the call, and the only one. -/
lemma request_of_mem (h : request ∈ Event.requests (c.answer replies blog call).2.1) :
    ∃ session, c.session = some session ∧ c.request session blog call = .ok request ∧
      Event.requests (c.answer replies blog call).2.1 = [request] := by
  cases fit : callFault? call with
  | some f =>
    rw [answer, fit] at h
    cases h
  | none =>
    obtain ⟨session, sent, hs, made, one⟩ | ⟨none, -⟩ := answer_sends c fit replies blog
    · rw [one, List.mem_singleton] at h
      subst h
      exact ⟨session, hs, made, one⟩
    · rw [none] at h
      cases h

/-- **The query of a request is read back as the parameters of its call**, in their order, and then
the key. -/
theorem query_read (h : request ∈ Event.requests (c.answer replies blog call).2.1) :
    request.url.parameters? = some (call.parameters ++ keyParameter c.apiKey) := by
  obtain ⟨session, -, made, -⟩ := request_of_mem h
  obtain ⟨u, -, -, url⟩ := url_ok (request_ok made).1
  have query : request.url.query =
      Url.queryOf ((c.params call).map fun p => (p.1.toList, p.2.toList)) := by rw [url]
  have back : (fun q : List Char × List Char => (String.ofList q.1, String.ofList q.2)) ∘
      (fun p : String × String => (p.1.toList, p.2.toList)) = id := funext fun p => by simp
  rw [Url.parameters?, query, ← params_parts]
  cases params : c.params call with
  | nil => rfl
  | cons p ps =>
    rw [Url.queryOf, if_neg (by simp)]
    dsimp only
    rw [Url.readForm_form, Option.map_some, List.map_map, back, List.map_id]

end Client

end BlogConsole
