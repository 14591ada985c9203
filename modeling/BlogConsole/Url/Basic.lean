import BlogConsole.Text.Literal
import BlogConsole.Url.Host
import BlogConsole.Url.HostName

/-!
URLs: their parts, how they are written, and how a text is read as a URL.

Reading brings every part into its normal form: scheme and host in lower case, no port that the
scheme implies, no dots in a path that stand for a place, and escapes for all that a part does not
allow.
-/

namespace BlogConsole

/-- A URL. A URL without a scheme or without a host is a relative one. -/
structure Url where
  scheme : List Char
  userinfo : List Char
  host : List Char
  port : Option Int
  path : List Char
  query : Option (List Char)
  fragment : Option (List Char)
  deriving DecidableEq, Repr

namespace Url

/-- Why a text is no URL. -/
inductive Error
  | tooLong
  | controlCharacter (c : Char) (position : Nat)
  | componentTooLong (name : String)
  | invalidPort (text : String)
  | invalidIPv4 (host : String)
  | invalidIPv6 (host : String)
  | invalidName (host : String)
  | startsWithSlashes
  | startsWithColon
  | unwritable (c : Char)
  deriving DecidableEq, Repr

/-- The fault of a character that is to be written as UTF-8 and cannot be. -/
def unwritten (c : Char) : Text.EncodeError := ⟨.unicode, c, 0, 1⟩

def Error.message : Error → String
  | tooLong => "URL too long"
  | controlCharacter c position =>
    "Invalid non-printable ASCII character in URL, " ++ Text.quoted (String.singleton c) ++
      s!" at position {position}."
  | componentTooLong name => s!"URL component '{name}' too long"
  | invalidPort text => "Invalid port: " ++ Text.quoted text
  | invalidIPv4 host => "Invalid IPv4 address: " ++ Text.quoted host
  | invalidIPv6 host => "Invalid IPv6 address: " ++ Text.quoted host
  | invalidName host => "Invalid IDNA hostname: " ++ Text.quoted host
  | startsWithSlashes => "Relative URLs cannot have a path starting with '//'"
  | startsWithColon => "Relative URLs cannot have a path starting with ':'"
  | unwritable c => (unwritten c).message

/-- A text or a part of it may have this many characters. -/
def maxLength : Nat := 65536

/-- A URL that names its host and how to reach it. -/
def isAbsolute (u : Url) : Bool := !u.scheme.isEmpty && !u.host.isEmpty

/-- User information, host and port as they are written. An IPv6 address stands in brackets. -/
def authority (u : Url) : List Char :=
  (if u.userinfo.isEmpty then [] else u.userinfo ++ ['@']) ++
    (if u.host.contains ':' then '[' :: u.host ++ [']'] else u.host) ++
    (match u.port with
      | some n => ':' :: (toString n).toList
      | none => [])

def write (u : Url) : List Char :=
  (if u.scheme.isEmpty then [] else u.scheme ++ [':']) ++
    (if u.authority.isEmpty then [] else '/' :: '/' :: u.authority) ++
    u.path ++
    (match u.query with
      | some q => '?' :: q
      | none => []) ++
    (match u.fragment with
      | some f => '#' :: f
      | none => [])

def text (u : Url) : String := String.ofList u.write

/-! ### Splitting a text -/

structure Parts where
  scheme : List Char
  authority : List Char
  path : List Char
  query : Option (List Char)
  fragment : Option (List Char)

def isSchemeChar (c : Char) : Bool := c.isAlphanum || c = '+' || c = '.' || c = '-'

/-- The scheme before a colon, and the text after the colon. The scheme may be empty. -/
def splitScheme (cs : List Char) : List Char × List Char :=
  let scheme := cs.takeWhile isSchemeChar
  match cs.dropWhile isSchemeChar with
  | ':' :: rest =>
    if scheme.isEmpty || (scheme.head?.any Char.isAlpha) then (scheme, rest) else ([], cs)
  | _ => ([], cs)

def after? (mark : Char) : List Char → Option (List Char)
  | c :: cs => if c = mark then some cs else none
  | [] => none

def Parts.ofText (cs : List Char) : Parts :=
  let (scheme, cs) := splitScheme cs
  let ends (c : Char) : Bool := c = '?' || c = '#'
  let (authority, cs) :=
    match cs with
    | '/' :: '/' :: rest =>
      (rest.takeWhile fun c => c ≠ '/' && !ends c, rest.dropWhile fun c => c ≠ '/' && !ends c)
    | cs => ([], cs)
  let path := cs.takeWhile fun c => !ends c
  let cs := cs.dropWhile fun c => !ends c
  let query := (after? '?' cs).map (·.takeWhile (· ≠ '#'))
  let fragment := after? '#' (cs.dropWhile (· ≠ '#'))
  ⟨scheme, authority, path, query, fragment⟩

/-- The text before the last character of a kind, and the text after it. -/
def splitLast (mark : Char) (cs : List Char) : Option (List Char × List Char) :=
  let last := (cs.reverse.takeWhile (· ≠ mark)).reverse
  if cs.contains mark then some (cs.take (cs.length - last.length - 1), last) else none

/-- User information, host and port of an authority. A host in brackets ends at the last closing
bracket. -/
def splitAuthority (cs : List Char) : List Char × List Char × List Char :=
  let (userinfo, rest) := (splitLast '@' cs).getD ([], cs)
  let bracketed := if rest.head? = some '[' then splitLast ']' rest else none
  let (host, rest) :=
    match bracketed with
    | some (before, after) => (before ++ [']'], after)
    | none => (rest.takeWhile (· ≠ ':'), rest.dropWhile (· ≠ ':'))
  (userinfo, host, (after? ':' rest).getD rest)

/-! ### Normal forms of the parts -/

/-- A host in its normal form. Names in ASCII are in lower case, their escapes too. -/
def normalHost (host : List Char) : Except Error (List Char) :=
  if host.isEmpty then .ok []
  else if looksIPv4 host then
    if isIPv4 host then .ok host else .error (.invalidIPv4 (String.ofList host))
  else if host.head? = some '[' ∧ host.getLast? = some ']' ∧ 2 ≤ host.length then
    let address := (host.drop 1).dropLast
    if isIPv6 address then .ok address else .error (.invalidIPv6 (String.ofList host))
  else if host.all fun c => c.toNat < 0x80 then
    let kept (c : Char) : Bool :=
      "!$&'()*+,;=\"%|\\".toList.contains c || c = '\x60' || c = '\x7b' || c = '\x7d'
    .ok ((escapeExcept kept host).map Char.toLower)
  else
    match asciiName? host with
    | some name => .ok name
    | none => .error (.invalidName (String.ofList host))

def impliedPort? (scheme : List Char) : Option Int :=
  [("ftp", 21), ("http", 80), ("https", 443), ("ws", 80), ("wss", 443)].lookup
    (String.ofList scheme)

/-- A port, unless it is missing or implied by the scheme. -/
def normalPort (scheme port : List Char) : Except Error (Option Int) :=
  if port.isEmpty then .ok none
  else
    match Text.readInteger port with
    | some n => .ok (if impliedPort? scheme = some n then none else some n)
    | none => .error (.invalidPort (String.ofList port))

/-- The segments of a path without dots that stand for a place: one dot is left out, two dots take
the segment before with them, but never an empty first one. The first argument holds the segments
kept so far, the last one first. -/
def dropDots : List (List Char) → List (List Char) → List (List Char)
  | kept, [] => kept.reverse
  | kept, s :: rest =>
    if s = ['.'] then dropDots kept rest
    else if s = ['.', '.'] then dropDots (if kept = [[]] then kept else kept.drop 1) rest
    else dropDots (s :: kept) rest

def withoutDots (path : List Char) : List Char :=
  ((dropDots [] (Text.splitWhere (· = '/') path)).intersperse ['/']).flatten

/-- The first control character of ASCII in a text and its position. -/
def controlIn? (cs : List Char) : Option (Char × Nat) :=
  (cs.zipIdx.find? fun p => p.1.toNat < 0x20 || p.1.toNat = 0x7F)

/-- A text may be a URL: it is not too long, and it has no control character of ASCII. -/
def screen (cs : List Char) : Except Error Unit :=
  if maxLength < cs.length then .error .tooLong
  else
    match controlIn? cs with
    | some (c, position) => .error (.controlCharacter c position)
    | none => .ok ()

/-- The URL of parts, each in its normal form but for the escapes. -/
def ofParts (p : Parts) : Except Error Url := do
  let scheme := p.scheme.map Char.toLower
  let (userinfo, host, port) := splitAuthority p.authority
  let host ← normalHost host
  let port ← normalPort scheme port
  let hasAuthority := !userinfo.isEmpty || !host.isEmpty || port.isSome
  if scheme.isEmpty && !hasAuthority && ['/', '/'].isPrefixOf p.path then .error .startsWithSlashes
  else if scheme.isEmpty && !hasAuthority && [':'].isPrefixOf p.path then .error .startsWithColon
  else
    let path := if scheme.isEmpty && !hasAuthority then p.path else withoutDots p.path
    .ok { scheme, userinfo, host, port, path, query := p.query, fragment := p.fragment }

/-- A URL with escapes for all that its parts do not allow. -/
def escaped (u : Url) : Url :=
  { u with
    userinfo := escapeExcept (printsExcept userEscaped) u.userinfo
    path := escapeExcept (printsExcept pathEscaped) u.path
    query := u.query.map (escapeExcept (printsExcept queryEscaped))
    fragment := u.fragment.map (escapeExcept (printsExcept fragmentEscaped)) }

/-- A text may be escaped. Escapes are those of UTF-8 bytes, which a lone surrogate has not. -/
def escapable (cs : List Char) : Except Error Unit :=
  match cs.find? Text.isSurrogate with
  | some c => .error (.unwritable c)
  | none => .ok ()

/-- Reads a text as a URL. User information is escaped before host and port are looked at, the
other parts after that. -/
def parse (cs : List Char) : Except Error Url := do
  screen cs
  let parts := Parts.ofText cs
  escapable (splitAuthority parts.authority).1
  let u ← ofParts parts
  escapable u.path
  escapable (u.query.getD [])
  escapable (u.fragment.getD [])
  .ok u.escaped

/-- Reads a text as a URL, whether or not its parts may be escaped. -/
def read (cs : List Char) : Except Error Url := do
  screen cs
  (ofParts (Parts.ofText cs)).map escaped

/-! ### The target of a request -/

/-- The URL that a request goes to: a relative one keeps its path only, below the root. -/
def target (u : Url) : Url :=
  if u.isAbsolute then u
  else ⟨[], [], [], none, '/' :: u.path.dropWhile (· = '/'), none, none⟩

/-- The URL with the given parameters in place of its query. Without parameters it has no query. -/
def withParams (u : Url) (params : List (List Char × List Char)) : Except Error Url :=
  let query := if params.isEmpty then none else some (form params)
  let tooLong (part : List Char) : Bool := maxLength < part.length
  if tooLong u.authority then .error (.componentTooLong "authority")
  else if tooLong u.path then .error (.componentTooLong "path")
  else if query.any tooLong then .error (.componentTooLong "query")
  else if u.fragment.any tooLong then .error (.componentTooLong "fragment")
  else .ok { u with query := query }

end Url

end BlogConsole
