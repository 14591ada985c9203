import BlogConsole.Text.Literal

/-!
Text as bytes.

Text is written as UTF-8. It is read as UTF-8, UTF-16 or UTF-32, told apart by a byte order mark or
by where zero bytes stand. Reading fails at the first bytes that no text has, and says which bytes
these are. A surrogate that stands alone may be read but not written. The other way about, bytes are
written as text in Base64.
-/

namespace BlogConsole.Text

/-- The forms in which bytes hold text. -/
inductive Encoding
  | utf8
  | utf16 (bigEndian : Bool)
  | utf32 (bigEndian : Bool)
  deriving DecidableEq, Repr

/-- Why bytes are no text. -/
inductive DecodeCause
  | invalidStart
  | invalidContinuation
  | unexpectedEnd
  | truncated
  | outOfRange
  deriving DecidableEq, Repr

/-- Where and why reading bytes as text fails: the faulty bytes from `position` on. -/
structure DecodeError where
  encoding : Encoding
  bytes : List UInt8
  position : Nat
  cause : DecodeCause
  deriving DecidableEq, Repr

def Encoding.name : Encoding → String
  | .utf8 => "utf-8"
  | .utf16 big => if big then "utf-16-be" else "utf-16-le"
  | .utf32 big => if big then "utf-32-be" else "utf-32-le"

def DecodeCause.message : DecodeCause → String
  | .invalidStart => "invalid start byte"
  | .invalidContinuation => "invalid continuation byte"
  | .unexpectedEnd => "unexpected end of data"
  | .truncated => "truncated data"
  | .outOfRange => "code point not in range(0x110000)"

/-- The message of a failed reading: one faulty byte is named, several are counted. -/
def DecodeError.message (e : DecodeError) : String :=
  let place :=
    match e.bytes with
    | [b] => "byte 0x" ++ String.ofList (hexPadded 2 b.toNat) ++ s!" in position {e.position}"
    | bytes => s!"bytes in position {e.position}-{e.position + bytes.length - 1}"
  s!"'{e.encoding.name}' codec can't decode {place}: {e.cause.message}"

/-- What the characters of a text have to be: ASCII, or characters at all and not lone surrogates.
-/
inductive Repertoire
  | ascii
  | unicode
  deriving DecidableEq, Repr

def Repertoire.has : Repertoire → Char → Bool
  | .ascii, c => c.toNat < 0x80
  | .unicode, c => !isSurrogate c

/-- The first run of characters in a text that a repertoire does not have. -/
structure EncodeError where
  repertoire : Repertoire
  first : Char
  position : Nat
  count : Nat
  deriving DecidableEq, Repr

/-- The first fault of a text whose characters have to be of a repertoire, if there is one. -/
def encodeError? (r : Repertoire) (cs : List Char) : Option EncodeError :=
  match cs.dropWhile r.has with
  | [] => none
  | c :: rest =>
    some ⟨r, c, (cs.takeWhile r.has).length, 1 + (rest.takeWhile fun d => !r.has d).length⟩

/-- The name by which messages call a repertoire, and why a character is not in it. -/
def Repertoire.words : Repertoire → String × String
  | .ascii => ("ascii", "ordinal not in range(128)")
  | .unicode => ("utf-8", "surrogates not allowed")

/-- The message of a text that cannot be written: one faulty character is shown, several are
counted. -/
def EncodeError.message (e : EncodeError) : String :=
  let (name, reason) := e.repertoire.words
  let place :=
    if e.count = 1 then
      s!"character '{String.ofList (codeEscape e.first)}' in position {e.position}"
    else s!"characters in position {e.position}-{e.position + e.count - 1}"
  s!"'{name}' codec can't encode {place}: {reason}"

def encodeUtf8 (cs : List Char) : List UInt8 := cs.flatMap String.utf8EncodeChar

def utf8Bytes (s : String) : List UInt8 := encodeUtf8 s.toList

def isTail (b : UInt8) : Bool := 0x80 ≤ b && b < 0xC0

/-- The least and the greatest byte that may follow the first byte of a UTF-8 character of three
or four bytes. -/
def secondRange (first : UInt8) : UInt8 × UInt8 :=
  if first = 0xE0 then (0xA0, 0xBF)
  else if first = 0xED then (0x80, 0x9F)
  else if first = 0xF0 then (0x90, 0xBF)
  else if first = 0xF4 then (0x80, 0x8F)
  else (0x80, 0xBF)

def isSecond (first b : UInt8) : Bool :=
  (secondRange first).1 ≤ b && b ≤ (secondRange first).2

/-- The number that the lead bits and the tail bytes of a UTF-8 character spell. -/
def joinTails (lead : Nat) (tails : List UInt8) : Nat :=
  tails.foldl (fun n b => 0x40 * n + b.toNat % 0x40) lead

/-- Reads UTF-8 bytes, the first of which stands at `position`. The flag tells whether lone
surrogates are read too. -/
def decodeUtf8 (lone : Bool) (position : Nat) : List UInt8 → Except DecodeError (List Char)
  | [] => .ok []
  | a :: rest =>
    let fail (bytes : List UInt8) (cause : DecodeCause) : Except DecodeError (List Char) :=
      .error ⟨.utf8, bytes, position, cause⟩
    if a < 0x80 then
      (decodeUtf8 lone (position + 1) rest).map (Char.ofNat a.toNat :: ·)
    else if a < 0xC2 then fail [a] .invalidStart
    else if a < 0xE0 then
      match rest with
      | [] => fail [a] .unexpectedEnd
      | b :: rest =>
        if isTail b then
          (decodeUtf8 lone (position + 2) rest).map
            (Char.ofNat (joinTails (a.toNat % 0x20) [b]) :: ·)
        else fail [a] .invalidContinuation
    else if a < 0xF0 then
      match rest with
      | [] => fail [a] .unexpectedEnd
      | b :: rest =>
        match rest with
        | [] => fail (if isSecond a b then [a, b] else [a])
            (if isSecond a b then .unexpectedEnd else .invalidContinuation)
        | c :: rest =>
          if isSecond a b then
            if isTail c then
              (decodeUtf8 lone (position + 3) rest).map
                (Char.ofNat (joinTails (a.toNat % 0x10) [b, c]) :: ·)
            else fail [a, b] .invalidContinuation
          else if lone ∧ a = 0xED ∧ isTail b ∧ isTail c then
            (decodeUtf8 lone (position + 3) rest).map
              (ofUnit (joinTails (a.toNat % 0x10) [b, c]) :: ·)
          else fail [a] .invalidContinuation
    else if a < 0xF5 then
      match rest with
      | [] => fail [a] .unexpectedEnd
      | b :: rest =>
        if isSecond a b then
          match rest with
          | [] => fail [a, b] .unexpectedEnd
          | c :: rest =>
            if isTail c then
              match rest with
              | [] => fail [a, b, c] .unexpectedEnd
              | d :: rest =>
                if isTail d then
                  (decodeUtf8 lone (position + 4) rest).map
                    (Char.ofNat (joinTails (a.toNat % 0x08) [b, c, d]) :: ·)
                else fail [a, b, c] .invalidContinuation
            else fail [a, b] .invalidContinuation
        else fail [a] .invalidContinuation
    else fail [a] .invalidStart

def ofUnits16 : List Nat → List Char
  | [] => []
  | [u] => [ofUnit u]
  | u :: v :: rest =>
    if isHighSurrogate u && isLowSurrogate v then joinSurrogates u v :: ofUnits16 rest
    else ofUnit u :: ofUnits16 (v :: rest)

def units16 (big : Bool) (position : Nat) : List UInt8 → Except DecodeError (List Nat)
  | [] => .ok []
  | [a] => .error ⟨.utf16 big, [a], position, .truncated⟩
  | a :: b :: rest =>
    let unit := if big then 0x100 * a.toNat + b.toNat else 0x100 * b.toNat + a.toNat
    (units16 big (position + 2) rest).map (unit :: ·)

def decodeUtf32 (big : Bool) (position : Nat) : List UInt8 → Except DecodeError (List Char)
  | [] => .ok []
  | a :: b :: c :: d :: rest =>
    let word (w x y z : UInt8) :=
      0x1000000 * w.toNat + 0x10000 * x.toNat + 0x100 * y.toNat + z.toNat
    let n := if big then word a b c d else word d c b a
    if n < 0x110000 then (decodeUtf32 big (position + 4) rest).map (ofUnit n :: ·)
    else .error ⟨.utf32 big, [a, b, c, d], position, .outOfRange⟩
  | bytes => .error ⟨.utf32 big, bytes, position, .truncated⟩

/-- The byte order marks of the encodings. A mark that another one starts with comes after it. -/
def byteOrderMarks : List (List UInt8 × Encoding) :=
  [([0x00, 0x00, 0xFE, 0xFF], .utf32 true), ([0xFF, 0xFE, 0x00, 0x00], .utf32 false),
    ([0xFE, 0xFF], .utf16 true), ([0xFF, 0xFE], .utf16 false), ([0xEF, 0xBB, 0xBF], .utf8)]

/-- The encoding of bytes that hold text whose first character is ASCII, by where zeros stand. -/
def encodingOfZeros : List UInt8 → Encoding
  | a :: b :: c :: d :: _ =>
    if a = 0 then (if b = 0 then .utf32 true else .utf16 true)
    else if b = 0 then (if c = 0 ∧ d = 0 then .utf32 false else .utf16 false)
    else .utf8
  | [a, b] => if a = 0 then .utf16 true else if b = 0 then .utf16 false else .utf8
  | _ => .utf8

/-- The encoding of bytes that hold text whose first character is ASCII, and the length of the
byte order mark before it. -/
def detectEncoding (bytes : List UInt8) : Encoding × Nat :=
  match byteOrderMarks.find? fun m => m.1.isPrefixOf bytes with
  | some (mark, encoding) => (encoding, mark.length)
  | none => (encodingOfZeros bytes, 0)

/-- Reads bytes as text in the encoding that they show, lone surrogates too. Positions in a UTF-8
text are counted after its byte order mark, all others from the first byte. -/
def decode (bytes : List UInt8) : Except DecodeError (List Char) :=
  match detectEncoding bytes with
  | (.utf8, mark) => decodeUtf8 true 0 (bytes.drop mark)
  | (.utf16 big, mark) => (units16 big mark (bytes.drop mark)).map ofUnits16
  | (.utf32 big, mark) => decodeUtf32 big mark (bytes.drop mark)

/-- The character that stands for bytes that are none. -/
def replacement : Char := '\uFFFD'

/-- Reads UTF-8 bytes in which faults stand for the replacement character. The first argument bounds
the number of faults. -/
def decodeLossyFrom : Nat → List UInt8 → List Char
  | 0, _ => []
  | fuel + 1, bytes =>
    match decodeUtf8 false 0 bytes with
    | .ok cs => cs
    | .error e =>
      decodeLossyFrom fuel (bytes.take e.position) ++
        replacement :: decodeLossyFrom fuel (bytes.drop (e.position + e.bytes.length))

/-- Reads UTF-8 bytes in which faults stand for the replacement character. -/
def decodeLossy (bytes : List UInt8) : List Char := decodeLossyFrom (bytes.length + 1) bytes

/-! ### Base64 -/

def base64Digit (n : Nat) : Char :=
  if n < 26 then Char.ofNat (0x41 + n)
  else if n < 52 then Char.ofNat (0x47 + n)
  else if n < 62 then Char.ofNat (n - 4)
  else if n = 62 then '+'
  else '/'

/-- Bytes in Base64. A last group of one or two bytes is filled with equals signs. -/
def base64 : List UInt8 → List Char
  | [] => []
  | [a] =>
    let n := 0x10 * a.toNat
    [base64Digit (n / 64), base64Digit (n % 64), '=', '=']
  | [a, b] =>
    let n := 4 * (0x100 * a.toNat + b.toNat)
    [base64Digit (n / 4096), base64Digit (n / 64 % 64), base64Digit (n % 64), '=']
  | a :: b :: c :: rest =>
    let n := 0x10000 * a.toNat + 0x100 * b.toNat + c.toNat
    base64Digit (n / 262144) :: base64Digit (n / 4096 % 64) :: base64Digit (n / 64 % 64) ::
      base64Digit (n % 64) :: base64 rest

end BlogConsole.Text
