import BlogConsole.Compression.Inflate

/-!
Packed data with a header before it and check sums behind it, in two formats, and packed data alone.

What is truncated unpacks to what is there; what follows the data does not count.
-/

namespace BlogConsole.Compression

/-! ### Check sums -/

def adlerModulus : Nat := 65521

def adler32 (bytes : List UInt8) : Nat :=
  let (a, b) := bytes.foldl
    (fun (s : Nat × Nat) byte =>
      let a := (s.1 + byte.toNat) % adlerModulus
      (a, (s.2 + a) % adlerModulus))
    (1, 0)
  65536 * b + a

/-- One step of the division of CRC-32. -/
def crcStep (r : UInt32) : UInt32 := if r &&& 1 = 1 then (r >>> 1) ^^^ 0xEDB88320 else r >>> 1

/-- The remainder of CRC-32 after one more byte. -/
def crcByte (r : UInt32) (byte : UInt8) : UInt32 :=
  (List.range 8).foldl (fun r _ => crcStep r) (r ^^^ byte.toUInt32)

def crc32 (bytes : List UInt8) : Nat := (bytes.foldl crcByte 0xFFFFFFFF ^^^ 0xFFFFFFFF).toNat

/-! ### Headers and trailers -/

/-- The formats in which data is packed. -/
inductive Format
  | bare
  | zlib
  | gzip
  deriving DecidableEq, Repr

def bytes (n : Nat) : Reader (List UInt8) := fun bits =>
  let found := takeBytes n bits
  if found.length = n then .ok (found, bits.drop (8 * n)) else .error .truncated

/-- Reads bytes up to one that is zero, that one included. The first argument bounds their number.
-/
def untilZero : Nat → Reader (List UInt8)
  | 0, _ => .error .truncated
  | fuel + 1, bits => do
    let (found, bits) ← bytes 1 bits
    if found = [0] then .ok (found, bits)
    else
      let (more, bits) ← untilZero fuel bits
      .ok (found ++ more, bits)

/-- The number that bytes spell, the highest first. -/
def ofBytes (bs : List UInt8) : Nat := bs.foldl (fun n b => 256 * n + b.toNat) 0

/-- Reads the two bytes before the data in the first format: the method and the size of the window,
and a check of the two with flags. -/
def zlibHeader : Reader Unit := fun bits => do
  let (found, bits) ← bytes 2 bits
  let refuse (f : Fault) : Except Stop (Unit × List Bool) := .error (.fault f)
  match found with
  | [method, flags] =>
    if ofBytes found % 31 ≠ 0 then refuse .headerCheck
    else if method.toNat % 16 ≠ 8 then refuse .method
    else if 7 < method.toNat / 16 then refuse .windowSize
    else if flags.toNat.testBit 5 then
      let _ ← bytes 4 bits
      refuse .dictionary
    else .ok ((), bits)
  | _ => .error .truncated

/-- Reads the parts of the header in the second format that its flags announce: more bytes, a name,
a remark. `read` holds all bytes of the header so far. -/
def gzipParts (flags : Nat) (read : List UInt8) : Reader (List UInt8) := fun bits => do
  let (read, bits) ←
    if flags.testBit 2 then do
      let (size, bits) ← bytes 2 bits
      let (extra, bits) ← bytes (ofBytes size.reverse) bits
      .ok (read ++ size ++ extra, bits)
    else .ok (read, bits)
  let named (bit : Nat) (p : List UInt8 × List Bool) : Except Stop (List UInt8 × List Bool) :=
    if flags.testBit bit then
      (untilZero (p.2.length + 1) p.2).map fun q => (p.1 ++ q.1, q.2)
    else .ok p
  named 4 (← named 3 (read, bits))

/-- Reads the header in the second format: two marks, the method, flags, a time, two more bytes, the
parts that the flags announce, and perhaps a check of all that. -/
def gzipHeader : Reader Unit := fun bits => do
  let refuse (f : Fault) : Except Stop (Unit × List Bool) := .error (.fault f)
  let (marks, bits) ← bytes 2 bits
  if marks ≠ [0x1F, 0x8B] then refuse .headerCheck
  else
    let (kind, bits) ← bytes 2 bits
    match kind with
    | [method, flags] =>
      if method ≠ 8 then refuse .method
      else if 0x20 ≤ flags then refuse .headerFlags
      else
        let (rest, bits) ← bytes 6 bits
        let (read, bits) ← gzipParts flags.toNat (marks ++ kind ++ rest) bits
        if flags.toNat.testBit 1 then
          let (check, bits) ← bytes 2 bits
          if ofBytes check.reverse = crc32 read % 65536 then .ok ((), bits)
          else refuse .headerChecksum
        else .ok ((), bits)
    | _ => .error .truncated

/-- Reads the check sum behind unpacked data in the first format. -/
def zlibTrailer (out : List UInt8) : Reader Unit := fun bits => do
  let (check, bits) ← bytes 4 bits
  if ofBytes check = adler32 out then .ok ((), bits) else .error (.fault .dataChecksum)

/-- Reads the check sum and the length behind unpacked data in the second format. -/
def gzipTrailer (out : List UInt8) : Reader Unit := fun bits => do
  let (check, bits) ← bytes 4 bits
  if ofBytes check.reverse ≠ crc32 out then .error (.fault .dataChecksum)
  else
    let (size, bits) ← bytes 4 bits
    if ofBytes size.reverse = out.length % Nat.pow 2 32 then .ok ((), bits)
    else .error (.fault .dataLength)

def unpackWith (header : Reader Unit) (trailer : List UInt8 → Reader Unit) (data : List UInt8) :
    Except Fault (List UInt8) :=
  match header (bitsOf data) with
  | .error .truncated => .ok []
  | .error (.fault f) => .error f
  | .ok (_, bits) =>
    let (out, ending) := inflate bits
    match ending.bind fun bits => trailer out.toList (align bits) with
    | .error (.fault f) => .error f
    | _ => .ok out.toList

def unpack (data : List UInt8) : Format → Except Fault (List UInt8)
  | .bare => unpackWith (fun bits => .ok ((), bits)) (fun _ bits => .ok ((), bits)) data
  | .zlib => unpackWith zlibHeader zlibTrailer data
  | .gzip => unpackWith gzipHeader gzipTrailer data

end BlogConsole.Compression
