/-!
Bytes as bits, the lowest bit of a byte first, and readers of bits.

A reader may find the bits at their end too early. That is no fault: what was read before still
counts.
-/

namespace BlogConsole.Compression

/-- Why bytes are no compressed data. -/
inductive Fault
  | headerCheck
  | method
  | windowSize
  | headerFlags
  | headerChecksum
  | dictionary
  | blockType
  | storedLength
  | tooManySymbols
  | lengthCode
  | lengthRepeat
  | noEndOfBlock
  | literalCode
  | distanceCode
  | literalSymbol
  | distanceSymbol
  | tooFarBack
  | dataChecksum
  | dataLength
  deriving DecidableEq, Repr

/-- What a fault is called; data that needs a dictionary is no fault of its own. -/
def Fault.name? : Fault → Option String
  | headerCheck => some "incorrect header check"
  | method => some "unknown compression method"
  | windowSize => some "invalid window size"
  | headerFlags => some "unknown header flags set"
  | headerChecksum => some "header crc mismatch"
  | dictionary => none
  | blockType => some "invalid block type"
  | storedLength => some "invalid stored block lengths"
  | tooManySymbols => some "too many length or distance symbols"
  | lengthCode => some "invalid code lengths set"
  | lengthRepeat => some "invalid bit length repeat"
  | noEndOfBlock => some "invalid code -- missing end-of-block"
  | literalCode => some "invalid literal/lengths set"
  | distanceCode => some "invalid distances set"
  | literalSymbol => some "invalid literal/length code"
  | distanceSymbol => some "invalid distance code"
  | tooFarBack => some "invalid distance too far back"
  | dataChecksum => some "incorrect data check"
  | dataLength => some "incorrect length check"

def Fault.message (f : Fault) : String :=
  match f.name? with
  | some name => "Error -3 while decompressing data: " ++ name
  | none => "Error 2 while decompressing data"

/-- Why a reader stops: there are too few bits, or they have a fault. -/
inductive Stop
  | truncated
  | fault (f : Fault)
  deriving DecidableEq, Repr

abbrev Reader (α : Type) : Type := List Bool → Except Stop (α × List Bool)

def bitsOfByte (b : UInt8) : List Bool := (List.range 8).map b.toNat.testBit

def bitsOf (bytes : List UInt8) : List Bool := bytes.flatMap bitsOfByte

/-- The number that bits spell, the lowest first. -/
def ofBits : List Bool → Nat
  | [] => 0
  | b :: bs => b.toNat + 2 * ofBits bs

def number (n : Nat) : Reader Nat := fun bits =>
  let taken := bits.take n
  if taken.length = n then .ok (ofBits taken, bits.drop n) else .error .truncated

/-- The bits from the next start of a byte on. -/
def align (bits : List Bool) : List Bool := bits.drop (bits.length % 8)

/-- At most `n` whole bytes at the start of bits. -/
def takeBytes : Nat → List Bool → List UInt8
  | 0, _ => []
  | n + 1, bits =>
    let taken := bits.take 8
    if taken.length < 8 then [] else UInt8.ofNat (ofBits taken) :: takeBytes n (bits.drop 8)

end BlogConsole.Compression
