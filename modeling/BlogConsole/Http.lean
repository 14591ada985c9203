import BlogConsole.Compression.Container
import BlogConsole.Json.Basic
import BlogConsole.Text.Charset
import BlogConsole.Text.Encoding
import BlogConsole.Url.Basic

/-!
Requests and responses, and how a status is worded.

A response comes with headers that may be at fault and with a body that may be packed. It is opened
before anything is made of it.
-/

namespace BlogConsole

structure Request where
  method : String
  url : Url
  authorization : Option String
  contentType : Option String
  body : List UInt8
  timeout : Double
  deriving DecidableEq, Repr

structure Response where
  status : Nat
  headers : List (String × String)
  body : List UInt8
  deriving DecidableEq, Repr

/-- A response as it comes: a header has to be ASCII, and its value a text. -/
structure RawResponse where
  status : Nat
  headers : List (String × Json)
  body : List UInt8
  deriving BEq, Repr

/-- What comes back for a request: a response, or the failure of the transport to get one, known by
its kind. -/
inductive Reply
  | response (response : RawResponse)
  | failure (kind message : String)
  deriving BEq, Repr

inductive HeaderFault
  | notAscii (error : Text.EncodeError)
  | notText (value : Json)
  deriving BEq, Repr

/-- The ways in which a body may be packed. -/
inductive Coding
  | gzip
  | deflate
  deriving DecidableEq, Repr

def Coding.ofName? (name : String) : Option Coding :=
  if name = "gzip" then some .gzip else if name = "deflate" then some .deflate else none

/-- Unpacks a body. The second coding may come without header and check sum. -/
def Coding.unpack (body : List UInt8) : Coding → Except Compression.Fault (List UInt8)
  | gzip => Compression.unpack body .gzip
  | deflate =>
    match Compression.unpack body .zlib with
    | .error _ => Compression.unpack body .bare
    | found => found

namespace Response

/-- The value of a header. Case does not matter in names; the values of one name are joined. -/
def header? (r : Response) (name : String) : Option String :=
  match r.headers.filter fun h => h.1.toLower = name.toLower with
  | [] => none
  | found => some (", ".intercalate (found.map (·.2)))

def isSuccess (r : Response) : Bool := 200 ≤ r.status && r.status < 300

/-- The statuses that send a request to another place. -/
def movedStatuses : List Nat := [301, 302, 303, 307, 308]

/-- The place to which a response sends the request. -/
def location? (r : Response) : Option String :=
  if movedStatuses.contains r.status then r.header? "Location" else none

/-- What keeps the body from being shown in the charset of the response. -/
def pageFault? (r : Response) : Option Text.CharsetFault :=
  ((r.header? "Content-Type").bind Text.charset?).bind fun charset =>
    Text.charsetFault? charset r.body

/-! ### Opening -/

/-- The ways in which a body is packed, in the order of packing. Unknown ones do not count. -/
def codings (r : Response) : List Coding :=
  let names := Text.splitWhere (· = ',') ((r.header? "Content-Encoding").getD "").toList
  names.filterMap fun cs => Coding.ofName? ((String.ofList (Text.trim cs)).toLower)

/-- A response with its body unpacked: what was packed last is unpacked first. -/
def unpacked (r : Response) : Except Compression.Fault Response :=
  if r.body.isEmpty then .ok r
  else
    (r.codings.foldrM (fun coding body => Coding.unpack body coding) r.body).map fun body =>
      { r with body := body }

end Response

namespace RawResponse

/-- A name or a value of a header. -/
def checkText (s : String) : Except HeaderFault String :=
  match Text.encodeError? .ascii s.toList with
  | none => .ok s
  | some e => .error (.notAscii e)

def checkHeader (h : String × Json) : Except HeaderFault (String × String) := do
  let name ← checkText h.1
  match h.2 with
  | .string value => (checkText value).map (name, ·)
  | v => .error (.notText v)

def checked (r : RawResponse) : Except HeaderFault Response :=
  (r.headers.mapM checkHeader).map fun headers => ⟨r.status, headers, r.body⟩

end RawResponse

namespace Response

/-! ### Wording -/

def phrases : List (Nat × String) :=
  [(100, "Continue"), (101, "Switching Protocols"), (102, "Processing"), (103, "Early Hints"),
    (200, "OK"), (201, "Created"), (202, "Accepted"), (203, "Non-Authoritative Information"),
    (204, "No Content"), (205, "Reset Content"), (206, "Partial Content"), (207, "Multi-Status"),
    (208, "Already Reported"), (226, "IM Used"), (300, "Multiple Choices"),
    (301, "Moved Permanently"), (302, "Found"), (303, "See Other"), (304, "Not Modified"),
    (305, "Use Proxy"), (307, "Temporary Redirect"), (308, "Permanent Redirect"),
    (400, "Bad Request"), (401, "Unauthorized"), (402, "Payment Required"), (403, "Forbidden"),
    (404, "Not Found"), (405, "Method Not Allowed"), (406, "Not Acceptable"),
    (407, "Proxy Authentication Required"), (408, "Request Timeout"), (409, "Conflict"),
    (410, "Gone"), (411, "Length Required"), (412, "Precondition Failed"),
    (413, "Request Entity Too Large"), (414, "Request-URI Too Long"),
    (415, "Unsupported Media Type"), (416, "Requested Range Not Satisfiable"),
    (417, "Expectation Failed"), (418, "I'm a teapot"), (421, "Misdirected Request"),
    (422, "Unprocessable Entity"), (423, "Locked"), (424, "Failed Dependency"), (425, "Too Early"),
    (426, "Upgrade Required"), (428, "Precondition Required"), (429, "Too Many Requests"),
    (431, "Request Header Fields Too Large"), (451, "Unavailable For Legal Reasons"),
    (500, "Internal Server Error"), (501, "Not Implemented"), (502, "Bad Gateway"),
    (503, "Service Unavailable"), (504, "Gateway Timeout"), (505, "HTTP Version Not Supported"),
    (506, "Variant Also Negotiates"), (507, "Insufficient Storage"), (508, "Loop Detected"),
    (510, "Not Extended"), (511, "Network Authentication Required")]

/-- The phrase of a status, empty if it has none. -/
def phrase (status : Nat) : String := (phrases.lookup status).getD ""

def statusKind (status : Nat) : String :=
  match status / 100 with
  | 1 => "Informational response"
  | 3 => "Redirect response"
  | 4 => "Client error"
  | 5 => "Server error"
  | _ => "Invalid status code"

def statusHelp : String := "developer.mozilla.org/en-US/docs/Web/HTTP/Status/"

def statusMessage (r : Response) (url : Url) : String :=
  let moved :=
    match r.location? with
    | some place => s!"Redirect location: '{place}'\n"
    | none => ""
  s!"{statusKind r.status} '{r.status} {phrase r.status}' for url '{url.text}'\n" ++ moved ++
    s!"For more information check: https://{statusHelp}{r.status}"

end Response

end BlogConsole
