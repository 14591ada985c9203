import BlogConsole.Compression.Huffman

/-!
Data in blocks of literals and of references to what came before.

A block is stored as it is, or its bytes are written in two prefix codes: one for literals, the end
of the block and the lengths of references, and one for their distances. The two codes are fixed,
or they are written before the block in a third code.
-/

namespace BlogConsole.Compression

/-- The bytes that were unpacked, in order. -/
abbrev Output : Type := Array UInt8

/-- What reading leaves: the bytes unpacked so far, and the rest of the bits or why reading
stopped. -/
abbrev Unpacked : Type := Output × Except Stop (List Bool)

/-! ### References -/

/-- Numbers in steps: the `n`-th step starts where the one before ends, and is as long as its extra
bits allow. -/
def steps (start : Nat) : List Nat → List (Nat × Nat)
  | [] => []
  | extra :: rest => (start, extra) :: steps (start + 2 ^ extra) rest

/-- The lengths of references, by symbol from 257 on: the least length and the count of extra bits.
The greatest length has a symbol of its own. -/
def lengthSteps : List (Nat × Nat) :=
  steps 3 [0, 0, 0, 0, 0, 0, 0, 0, 1, 1, 1, 1, 2, 2, 2, 2, 3, 3, 3, 3, 4, 4, 4, 4, 5, 5, 5, 5] ++
    [(258, 0)]

/-- The distances of references, by symbol: the least distance and the count of extra bits. -/
def distanceSteps : List (Nat × Nat) :=
  steps 1 [0, 0, 0, 0, 1, 1, 2, 2, 3, 3, 4, 4, 5, 5, 6, 6, 7, 7, 8, 8, 9, 9, 10, 10, 11, 11, 12, 12,
    13, 13]

def endSymbol : Nat := 256

/-- Appends `length` bytes that stand `distance` bytes before the end. -/
def copyBack (distance : Nat) : (length : Nat) → Output → Output
  | 0, out => out
  | length + 1, out => copyBack distance length (out.push (out[out.size - distance]?.getD 0))

/-- A number of a step that a symbol names, with its extra bits. -/
def stepped (table : List (Nat × Nat)) (symbol : Nat) (fault : Fault) : Reader Nat := fun bits =>
  match table[symbol]? with
  | none => .error (.fault fault)
  | some (least, extra) => (number extra bits).map fun r => (least + r.1, r.2)

def symbolOf (c : PrefixCode) (fault : Fault) : Reader Nat := fun bits =>
  match c.symbol bits with
  | .error stop => .error stop
  | .ok (none, _) => .error (.fault fault)
  | .ok (some n, rest) => .ok (n, rest)

/-- The length and the distance of a reference, after the symbol of its length. -/
def reference (distances : PrefixCode) (symbol : Nat) : Reader (Nat × Nat) := fun bits => do
  let (length, bits) ← stepped lengthSteps (symbol - endSymbol - 1) .literalSymbol bits
  let (symbol, bits) ← symbolOf distances .distanceSymbol bits
  let (distance, bits) ← stepped distanceSteps symbol .distanceSymbol bits
  .ok ((length, distance), bits)

/-- Unpacks the symbols of a block up to its end. The first argument bounds their number. -/
def symbols (literals distances : PrefixCode) : Nat → Output → List Bool → Unpacked
  | 0, out, _ => (out, .error .truncated)
  | fuel + 1, out, bits =>
    match symbolOf literals .literalSymbol bits with
    | .error stop => (out, .error stop)
    | .ok (n, bits) =>
      if n < endSymbol then symbols literals distances fuel (out.push (UInt8.ofNat n)) bits
      else if n = endSymbol then (out, .ok bits)
      else
        match reference distances n bits with
        | .error stop => (out, .error stop)
        | .ok ((length, distance), bits) =>
          if out.size < distance then (out, .error (.fault .tooFarBack))
          else symbols literals distances fuel (copyBack distance length out) bits

/-! ### Blocks -/

/-- Unpacks a stored block: its length, the same length with all bits turned, and its bytes. -/
def storedBlock (out : Output) (bits : List Bool) : Unpacked :=
  let header : Except Stop ((Nat × Nat) × List Bool) := do
    let (length, bits) ← number 16 (align bits)
    let (turned, bits) ← number 16 bits
    .ok ((length, turned), bits)
  match header with
  | .error stop => (out, .error stop)
  | .ok ((length, turned), bits) =>
    if length + turned ≠ 0xFFFF then (out, .error (.fault .storedLength))
    else
      let bytes := takeBytes length bits
      let out := out ++ bytes.toArray
      if bytes.length = length then (out, .ok (bits.drop (8 * length)))
      else (out, .error .truncated)

def fixedLiterals : PrefixCode :=
  .ofLengths <| List.replicate 144 8 ++ List.replicate 112 9 ++ List.replicate 24 7 ++
    List.replicate 8 8

def fixedDistances : PrefixCode := .ofLengths (List.replicate 32 5)

/-- The symbols of the third code in the order in which the lengths of their words are written. -/
def lengthOrder : List Nat := [16, 17, 18, 0, 8, 7, 9, 6, 10, 5, 11, 4, 12, 3, 13, 2, 14, 1, 15]

def threeBits : (n : Nat) → Reader (List Nat)
  | 0, bits => .ok ([], bits)
  | n + 1, bits => do
    let (first, bits) ← number 3 bits
    let (rest, bits) ← threeBits n bits
    .ok (first :: rest, bits)

/-- Reads `wanted` lengths of words; `found` holds those read so far, the last one first. The
symbols above 15 repeat a length. The first argument bounds the number of symbols. -/
def wordLengths (c : PrefixCode) (wanted : Nat) : Nat → (found : List Nat) → Reader (List Nat)
  | 0, _, _ => .error .truncated
  | fuel + 1, found, bits =>
    if wanted ≤ found.length then .ok (found.reverse, bits)
    else do
      let (symbol, bits) ← c.symbol bits
      let symbol := symbol.getD 0
      if symbol < 16 then wordLengths c wanted fuel (symbol :: found) bits
      else
        let (least, extra) :=
          if symbol = 16 then (3, 2) else if symbol = 17 then (3, 3) else (11, 7)
        let (more, bits) ← number extra bits
        let count := least + more
        if (symbol = 16 ∧ found = []) ∨ wanted < found.length + count then
          .error (.fault .lengthRepeat)
        else
          let length := if symbol = 16 then found.headD 0 else 0
          wordLengths c wanted fuel (List.replicate count length ++ found) bits

def writtenCodes : Reader (PrefixCode × PrefixCode) := fun bits => do
  let refuse {α : Type} (f : Fault) : Except Stop α := .error (.fault f)
  let (literals, bits) ← number 5 bits
  let (distances, bits) ← number 5 bits
  let (lengths, bits) ← number 4 bits
  let literals := literals + 257
  let distances := distances + 1
  if 286 < literals ∨ 30 < distances then refuse .tooManySymbols
  else
    let (written, bits) ← threeBits (lengths + 4) bits
    let code := PrefixCode.ofLengths <|
      (List.range 19).map fun n => (((lengthOrder.zip written).find? (·.1 = n)).map (·.2)).getD 0
    if !code.isComplete then refuse .lengthCode
    else
      let (found, bits) ← wordLengths code (literals + distances) (literals + distances + 1) [] bits
      let first := PrefixCode.ofLengths (found.take literals)
      let second := PrefixCode.ofLengths (found.drop literals)
      if found[endSymbol]? = some 0 then refuse .noEndOfBlock
      else if !first.isUsable then refuse .literalCode
      else if !second.isUsable then refuse .distanceCode
      else .ok ((first, second), bits)

def block (kind : Nat) (out : Output) (bits : List Bool) : Unpacked :=
  match kind with
  | 0 => storedBlock out bits
  | 1 => symbols fixedLiterals fixedDistances (bits.length + 1) out bits
  | 2 =>
    match writtenCodes bits with
    | .error stop => (out, .error stop)
    | .ok ((literals, distances), bits) => symbols literals distances (bits.length + 1) out bits
  | _ => (out, .error (.fault .blockType))

/-- Unpacks blocks up to the one that is marked as the last. The first argument bounds their
number. -/
def blocks : Nat → Output → List Bool → Unpacked
  | 0, out, _ => (out, .error .truncated)
  | fuel + 1, out, bits =>
    let header : Except Stop ((Nat × Nat) × List Bool) := do
      let (last, bits) ← number 1 bits
      let (kind, bits) ← number 2 bits
      .ok ((last, kind), bits)
    match header with
    | .error stop => (out, .error stop)
    | .ok ((last, kind), bits) =>
      match block kind out bits with
      | (out, .error stop) => (out, .error stop)
      | (out, .ok bits) => if last = 1 then (out, .ok bits) else blocks fuel out bits

def inflate (bits : List Bool) : Unpacked := blocks (bits.length + 1) #[] bits

end BlogConsole.Compression
