import BlogConsole.Text.Blank
import BlogConsole.Text.Literal

/-!
The charset that a content type names, and whether bytes can be shown in it.

In almost every charset they can, since bytes that are no text stand for the replacement character.
The exceptions are charsets that start with a byte order mark, and names that are in use for
charsets but stand for something else.
-/

namespace BlogConsole.Text

/-- Why bytes cannot be shown in a charset. -/
inductive CharsetFault
  | noByteOrderMark (width : Nat)
  | notAscii (byte : UInt8) (position : Nat)
  | noCharset
  | noReplacement
  | noText
  | noBytes
  deriving DecidableEq, Repr

def CharsetFault.message : CharsetFault → String
  | noByteOrderMark width => s!"UTF-{width} stream does not start with BOM"
  | notAscii byte position =>
    s!"'ascii' codec can't decode byte 0x{String.ofList (hexPadded 2 byte.toNat)} in position " ++
      s!"{position}: ordinal not in range(128)"
  | noCharset => "undefined encoding"
  | noReplacement => "Unsupported error handling replace"
  | noText => ""
  | noBytes => "descriptor 'translate' for 'str' objects doesn't apply to a 'bytes' object"

/-- The parts of a content type between semicolons. A semicolon between double quotes does not
divide. -/
def contentParts : (quoted : Bool) → List Char → List (List Char)
  | _, [] => [[]]
  | quoted, c :: cs =>
    if c = ';' ∧ !quoted then [] :: contentParts false cs
    else
      match contentParts (if c = '"' then !quoted else quoted) cs with
      | [] => [[c]]
      | part :: parts => (c :: part) :: parts

/-- A value without the double quotes or the angle brackets around it. -/
def unquoted (cs : List Char) : List Char :=
  let ends (opening closing : Char) : Bool :=
    2 ≤ cs.length && cs.head? = some opening && cs.getLast? = some closing
  if ends '"' '"' || ends '<' '>' then (cs.drop 1).dropLast else cs

def charset? (contentType : String) : Option (List Char) :=
  (contentParts false contentType.toList).findSome? fun part =>
    let name := trim (part.takeWhile (· ≠ '='))
    if name.map Char.toLower = "charset".toList ∧ part.contains '=' then
      some ((unquoted (trim ((part.dropWhile (· ≠ '=')).drop 1))).map Char.toLower)
    else none

/-- The name of a charset with single underscores for all that are neither letters, digits nor
points. -/
def charsetName (cs : List Char) : String :=
  let words := (splitWhere (fun c => !c.isAlphanum && c ≠ '.') cs).filter (· ≠ [])
  "_".intercalate (words.map String.ofList)

/-- Names for ways of writing bytes as other bytes. -/
def byteCodings : List String :=
  ["base64", "base_64", "base64_codec", "bz2", "bz2_codec", "hex", "hex_codec", "quopri",
    "quopri_codec", "quoted_printable", "quotedprintable", "uu", "uu_codec", "zip", "zlib",
    "zlib_codec"]

/-- Bytes start with one of two byte order marks, or are too few to have one. -/
def hasMark (mark : List UInt8) (bytes : List UInt8) : Bool :=
  bytes.length < mark.length || mark.isPrefixOf bytes || mark.reverse.isPrefixOf bytes

/-- The first byte behind the last hyphen that is not ASCII. -/
def notAsciiTail? (bytes : List UInt8) : Option CharsetFault :=
  let tail := if bytes.contains 0x2D then (bytes.reverse.takeWhile (· ≠ 0x2D)).reverse else bytes
  (tail.zipIdx.find? (0x80 ≤ ·.1)).map fun p => .notAscii p.1 p.2

/-- What keeps bytes from being shown in a charset. -/
def charsetFault? (charset : List Char) (bytes : List UInt8) : Option CharsetFault :=
  let name := charsetName charset
  if ["utf_16", "utf16", "u16"].contains name then
    if hasMark [0xFF, 0xFE] bytes then none else some (.noByteOrderMark 16)
  else if ["utf_32", "utf32", "u32"].contains name then
    if hasMark [0xFF, 0xFE, 0x00, 0x00] bytes then none else some (.noByteOrderMark 32)
  else if byteCodings.contains name then some .noText
  else if ["rot13", "rot_13"].contains name then some .noBytes
  else if name = "undefined" then some .noCharset
  else if name = "idna" then some .noReplacement
  else if name = "punycode" then notAsciiTail? bytes
  else none

end BlogConsole.Text
