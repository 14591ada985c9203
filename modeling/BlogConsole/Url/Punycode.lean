/-!
Punycode: text in ASCII letters, digits and hyphens.

The ASCII characters of the text come first, behind them a hyphen. Then every other character is
told, in the order of the code points, by how many places it is away from the one before, where a
place is a code point and a position in the text. The numbers are written in a base that varies by
place, with thresholds that adapt to the numbers before.
-/

namespace BlogConsole.Url.Punycode

/-! ### Numbers -/

/-- The digits: letters, then the digits `0` to `9`. -/
def digit (n : Nat) : Char := if n < 26 then Char.ofNat (0x61 + n) else Char.ofNat (0x16 + n)

def value? (c : Char) : Option Nat :=
  if 'a' ≤ c ∧ c ≤ 'z' then some (c.toNat - 0x61)
  else if '0' ≤ c ∧ c ≤ '9' then some (c.toNat - 0x16)
  else none

def threshold (place bias : Nat) : Nat := min 26 (max 1 (place - bias))

theorem one_le_threshold (place bias : Nat) : 1 ≤ threshold place bias := by
  simp only [threshold]
  omega

def writeNumber (bias place q : Nat) : List Char :=
  let t := threshold place bias
  if q < t then [digit q]
  else digit (t + (q - t) % (36 - t)) :: writeNumber bias (place + 36) ((q - t) / (36 - t))
termination_by q
decreasing_by
  have h₁ := one_le_threshold place bias
  have h₂ := Nat.div_le_self (q - threshold place bias) (36 - threshold place bias)
  simp only [t] at *
  omega

def readNumber (bias : Nat) : (place weight sum : Nat) → List Char → Option (Nat × List Char)
  | _, _, _, [] => none
  | place, weight, sum, c :: cs =>
    match value? c with
    | none => none
    | some d =>
      let t := threshold place bias
      let sum := sum + d * weight
      if d < t then some (sum, cs) else readNumber bias (place + 36) (weight * (36 - t)) sum cs

/-- The bias that a small number asks for, after the places that a greater one took. -/
def shrink (place delta : Nat) : Nat :=
  if 455 < delta then shrink (place + 36) (delta / 35) else place + 36 * delta / (delta + 38)
termination_by delta

def adapt (delta count : Nat) (first : Bool) : Nat :=
  let delta := if first then delta / 700 else delta / 2
  shrink 0 (delta + delta / count)

/-! ### Writing -/

/-- What was written of a text: the places passed since the last character, the bias, the count of
characters handled, and the numbers. -/
structure Written where
  delta : Nat
  bias : Nat
  handled : Nat
  output : List Char

/-- Handles all characters with the code point `n`, in the order of the text. -/
def pass (basic n : Nat) (cs : List Char) (s : Written) : Written :=
  cs.foldl
    (fun s c =>
      if c.toNat < n then { s with delta := s.delta + 1 }
      else if c.toNat = n then
        { delta := 0
          bias := adapt s.delta (s.handled + 1) (s.handled = basic)
          handled := s.handled + 1
          output := s.output ++ writeNumber s.bias 36 s.delta }
      else s)
    s

/-- The Punycode of a text. The code points are handled in increasing order. -/
def write (cs : List Char) : List Char :=
  let basic := cs.filter fun c => c.toNat < 0x80
  let points := ((cs.map Char.toNat).filter (0x80 ≤ ·)).mergeSort.eraseDups
  let start : Written := ⟨0, 72, basic.length, if basic.isEmpty then [] else basic ++ ['-']⟩
  let final := points.foldl
    (fun (acc : Nat × Written) n =>
      let (last, s) := acc
      let s := { s with delta := s.delta + (n - last) * (s.handled + 1) }
      let s := pass basic.length n cs s
      (n + 1, { s with delta := s.delta + 1 }))
    (0x80, start)
  final.2.output

/-! ### Reading -/

/-- Puts the characters that numbers tell into a text of code points. `point` and `position` are the
place after the last character. The first argument bounds the count of numbers. -/
def readFrom : Nat → (bias point position : Nat) → (first : Bool) → List Nat → List Char →
    Option (List Nat)
  | _, _, _, _, _, text, [] => some text
  | 0, _, _, _, _, _, _ :: _ => none
  | fuel + 1, bias, point, position, first, text, cs =>
    match readNumber bias 36 1 0 cs with
    | none => none
    | some (delta, rest) =>
      let count := text.length + 1
      let place := position + delta
      let point := point + place / count
      let position := place % count
      if 0x10FFFF < point then none
      else
        readFrom fuel (adapt delta count first) point (position + 1) false
          (text.take position ++ point :: text.drop position) rest

/-- The code points of the text of which a text in small letters is the Punycode. -/
def read? (cs : List Char) : Option (List Nat) :=
  let tail := (cs.reverse.takeWhile (· ≠ '-')).reverse
  let basic := cs.take (cs.length - tail.length - 1)
  readFrom tail.length 72 0x80 0 true (basic.map Char.toNat) tail

end BlogConsole.Url.Punycode
