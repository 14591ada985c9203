import BlogConsole.Event
import BlogConsole.Post.Wire

/-!
The client of the service.

A client has to be opened. Opening fixes the credential that goes with every request; the base URL
and the key are read at each call. Replies that are no success become errors of the service, worded
as the reply says, and so do failures of the transport.
-/

namespace BlogConsole

/-- What opening a client fixes: the value of the authorization header, if there is one. -/
structure Session where
  authorization : Option String
  deriving DecidableEq, Repr

/-- A client of the service; it is open while it has a session. -/
structure Client where
  accessToken : String
  apiKey : String
  baseUrl : String
  timeout : Double
  session : Option Session
  deriving DecidableEq, Repr

/-- The replies that a transport still has to give, in order. -/
abbrev Transport : Type := List Reply

namespace Client

def defaultBaseUrl : String := "https://www.googleapis.com/blogger/v3"

def defaultTimeout : Double := Double.ofInt 30

/-- A closed client. The base URL loses the slashes at its end. -/
def new (accessToken apiKey baseUrl : String) (timeout : Double) : Client :=
  ⟨accessToken, apiKey, String.ofList (Text.dropEnd (· = '/') baseUrl.toList), timeout, none⟩

def isOpen (c : Client) : Bool := c.session.isSome

/-- The header value of an access token; an empty token gives none. It has to be ASCII. -/
def credential (token : String) : Except Failure (Option String) :=
  if token = "" then .ok none
  else
    let value := "Bearer " ++ token
    match Text.encodeError? .ascii value.toList with
    | none => .ok (some value)
    | some e => .error (.badText e)

/-- Opens a client. An open client stays as it is. -/
def opened (c : Client) : Except Failure Client :=
  match c.session with
  | some _ => .ok c
  | none => (credential c.accessToken).map fun a => { c with session := some ⟨a⟩ }

def closed (c : Client) : Client := { c with session := none }

/-! ### Requests -/

def method : Call → String
  | .insert _ => "POST"
  | _ => "GET"

/-- The place of a call below the base URL. -/
def endpoint (blog : Option String) (call : Call) : String :=
  let posts := s!"blogs/{Display.orNone blog}/posts"
  match call with
  | .insert _ => posts ++ "/"
  | .get id _ => posts ++ "/" ++ id.plainText
  | .list .. => posts

/-- The parameters of a call, without those that are missing, and then the key. -/
def params (c : Client) (call : Call) : List (String × String) :=
  let own : List (String × Option String) :=
    match call with
    | .insert _ => []
    | .get _ fields => [("fields", fields)]
    | .list fields token maxResults =>
      [("fields", fields), ("pageToken", token), ("maxResults", maxResults.map toString)]
  (own.filterMap fun p => p.2.map (p.1, ·)) ++ (if c.apiKey = "" then [] else [("key", c.apiKey)])

def body : Call → Option (List UInt8)
  | .insert draft => some (Text.encodeUtf8 draft.toJson.print)
  | _ => none

def placeFailure : Url.Error → Failure
  | .unwritable c => .badText (Url.unwritten c)
  | e => .badUrl e

/-- A call has a number with more digits than can be written. -/
def hasLongNumber : Call → Bool
  | .list _ _ (some n) => Text.maxIntegerDigits < (Nat.toDigits 10 n.natAbs).length
  | _ => false

/-- What is wrong with the parameters of a call: a number with too many digits, or else a value with
a lone surrogate. -/
def paramsFault? (c : Client) (call : Call) : Option Failure :=
  if hasLongNumber call then some .numberTooLong
  else ((c.params call).findSome? fun p => Text.encodeError? .unicode p.2.toList).map .badText

/-- What is wrong with the body of a call's request: it may not hold lone surrogates. -/
def bodyFault? : Call → Option Failure
  | .insert draft => (Text.encodeError? .unicode draft.toJson.print).map .badText
  | _ => none

/-- The URL of a call's request, if the request can be made: its parameters and its body have to be
fit to be written, and the name of its host has to be readable. -/
def url (c : Client) (blog : Option String) (call : Call) : Except Failure Url := do
  let base ← (Url.parse (c.baseUrl ++ "/" ++ endpoint blog call).toList).mapError placeFailure
  match c.paramsFault? call with
  | some f => .error f
  | none =>
    let params := (c.params call).map fun p => (p.1.toList, p.2.toList)
    let url ← (base.target.withParams params).mapError .badUrl
    match (bodyFault? call).or ((Url.nameFault? url.host).map .badName) with
    | some f => .error f
    | none => .ok url

/-- The header value of user information in a URL. -/
def userCredential (userinfo : List Char) : Option String :=
  let part (cs : List Char) : List Char := Text.decodeLossy (Url.unescape cs)
  let user := part (userinfo.takeWhile (· ≠ ':'))
  let password := part ((userinfo.dropWhile (· ≠ ':')).drop 1)
  if user.isEmpty && password.isEmpty then none
  else
    let value := Text.base64 (Text.encodeUtf8 (user ++ ':' :: password))
    some ("Basic " ++ String.ofList value)

/-- The request of a call. User information in the URL takes the place of the credential. -/
def request (c : Client) (session : Session) (blog : Option String) (call : Call) :
    Except Failure Request :=
  (c.url blog call).map fun url =>
    { method := method call
      url := url
      authorization := (userCredential url.userinfo).or session.authorization
      contentType := (body call).map fun _ => "application/json"
      body := (body call).getD []
      timeout := c.timeout }

/-! ### Replies -/

def readBody (bytes : List UInt8) : Except Failure Json :=
  match Text.decode bytes with
  | .error e => .error (.badBytes e)
  | .ok cs =>
    match Json.parse cs with
    | .error e => .error (.badJson e)
    | .ok v => .ok v

/-- The object of an error in a response that is no success. A body that cannot be read has none,
but it has to be fit for the charset of the response; a body that is nested too deep, or is no
object, is a failure. A misfit of the charset is met while the body's other fault is handled. -/
def errorObject (r : Response) : Except Failure (List (String × Json)) :=
  if r.body.isEmpty then .ok []
  else
    match readBody r.body with
    | .ok (.object ms) =>
      match Json.member? ms "error" with
      | some (.object error) => .ok error
      | _ => .ok []
    | .ok v => .error (.lacks v "get")
    | .error (.badJson ⟨.tooDeep container, position, line, column⟩) =>
      .error (.badJson ⟨.tooDeep container, position, line, column⟩)
    | .error f =>
      match r.pageFault? with
      | some fault => .error (.during f.trace (.badPage fault))
      | none => .ok []

/-- The reason in the object of an error: that of its first entry. -/
def errorReason (error : List (String × Json)) : Json :=
  match Json.member? error "errors" with
  | some (.array (.object first :: _)) => (Json.member? first "reason").getD .null
  | _ => .null

/-- The statuses that stand for missing or insufficient credentials. -/
def isAuthorizationStatus (status : Int) : Bool := status = 401 || status = 403

/-- What a response comes to: a value, or a failure with its notices. -/
abbrev Received : Type := List Event × Except Failure Json

/-- The error of a response that is no success, with its notice. It comes from the failure that the
status is, and so does any failure to read the response. -/
def errorOf (r : Response) (url : Url) (call : Call) (blog : Option String) : Received :=
  let origin := r.statusMessage url
  match errorObject r with
  | .error f => ([], .error (.during [origin] f))
  | .ok error =>
    let message := (Json.member? error "message").getD (.string origin)
    let reason := errorReason error
    ([.notice (.errorReply r.status reason message (endpoint blog call) (method call))],
      .error (.api ⟨isAuthorizationStatus r.status, message, some r.status, reason⟩ (some origin)))

/-- The failure of a transport, with its notice. An empty message gives way to the kind. -/
def transportError (kind message : String) (call : Call) (blog : Option String) : Received :=
  ([.notice (.transportFailed (endpoint blog call) (method call) message)],
    .error (.api ⟨false, .string (if message = "" then kind else message), none, .null⟩
      (some message)))

/-- The kinds of failures that a transport passes on as they are. -/
def passedOn : List String := ["InvalidURL", "CookieConflict"]

/-- What is wrong with the place to which a response sends a request. -/
inductive BadPlace
  | unreadable (error : Url.Error)
  | badName (fault : Url.NameFault)
  | withoutHost

/-- Checks the place to which a response sends a request: it has to be a URL whose host has a
readable name, and one with a scheme but without a host has to have a path from the root. -/
def badPlace? (place : String) : Option BadPlace :=
  match Url.parse place.toList with
  | .error e => some (.unreadable e)
  | .ok u =>
    match Url.nameFault? u.host with
    | some fault => some (.badName fault)
    | none =>
      if !u.scheme.isEmpty && u.host.isEmpty && !u.path.isEmpty && u.path.head? ≠ some '/' then
        some .withoutHost
      else none

/-- What an opened response comes to. -/
def conclude (r : Response) (url : Url) (call : Call) (blog : Option String) : Received :=
  match r.location?.bind badPlace? with
  | some (.unreadable e) =>
    transportError "RemoteProtocolError"
      ("Invalid URL in location header: " ++ e.message ++ ".") call blog
  | some (.badName fault) => ([], .error (.badName fault))
  | some .withoutHost => ([], .error .redirectWithoutHost)
  | none => if r.isSuccess then ([], readBody r.body) else errorOf r url call blog

/-- What a reply to a request comes to. A response is opened first: its headers are checked and its
body is unpacked. Then the request has to be one to a URL with a scheme. -/
def receive (reply : Reply) (url : Url) (call : Call) (blog : Option String) : Received :=
  match reply with
  | .failure kind message =>
    if passedOn.contains kind then ([], .error (.thrown kind message))
    else transportError kind message call blog
  | .response raw =>
    match raw.checked with
    | .error fault => ([], .error (.badHeader fault))
    | .ok r =>
      match r.unpacked with
      | .error fault => transportError "DecodingError" fault.message call blog
      | .ok r =>
        if url.scheme.isEmpty then ([], .error (.withoutScheme url))
        else conclude r url call blog

/-- Sends the request of a call, if the client is open, and takes the transport's next reply. -/
def exchange (c : Client) (transport : Transport) (blog : Option String) (call : Call) :
    Transport × Received :=
  let sent := Event.notice (.requestSent (method call) (endpoint blog call))
  match c.session with
  | none => (transport, [sent], .error .notOpen)
  | some session =>
    match c.request session blog call with
    | .error f => (transport, [sent], .error f)
    | .ok request =>
      match transport with
      | [] => ([], [sent, .request request], .error .outOfReplies)
      | reply :: rest =>
        let (events, result) := receive reply request.url call blog
        (rest, sent :: .request request :: events, result)

/-- The notice of a call that succeeded. -/
def success (blog : Option String) : (call : Call) → call.Answer → List Event
  | .insert _, post => [.notice (.postStored blog post.id)]
  | .get .., _ => []
  | .list .., _ => []

/-- What is wrong with a call before anything is sent: a draft has to be a post. -/
def callFault? : Call → Option Failure
  | .insert (.value v) => some (.lacks v "to_wire")
  | _ => none

def answer (c : Client) (transport : Transport) (blog : Option String) (call : Call) :
    Transport × List Event × call.Reply :=
  match callFault? call with
  | some f => (transport, [], call.fail f)
  | none =>
    let (rest, events, result) := c.exchange transport blog call
    match result with
    | .error f => (rest, events, call.fail f)
    | .ok v =>
      match call.read v with
      | .error f => (rest, events, call.fail f)
      | .ok a => (rest, events ++ success blog call a, .ok a)

end Client

end BlogConsole
