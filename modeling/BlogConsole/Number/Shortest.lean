import BlogConsole.Number.Double

/-!
The text of a double-precision number: the fewest decimal digits that read back as the number, and
of these the nearest to it.
-/

namespace BlogConsole.Double

/-- A positive decimal number `digits * 10 ^ exponent`. -/
structure Decimal where
  digits : Nat
  exponent : Int
  deriving DecidableEq, Repr

/-- Takes zeros off the end of the digits. The first argument bounds their number. -/
def Decimal.strip : Nat → Decimal → Decimal
  | 0, d => d
  | fuel + 1, d =>
    if d.digits % 10 = 0 then Decimal.strip fuel ⟨d.digits / 10, d.exponent + 1⟩ else d

/-- A positive number and the ends of the interval of reals that round to it, over one
denominator. -/
structure Interval where
  low : Nat
  value : Nat
  high : Nat
  den : Nat
  closed : Bool

/-- The interval of the number `mantissa * 2 ^ exponent`. It reaches half way to the neighbours;
the lower neighbour of a power of two is nearer. The ends belong to it when the mantissa is
even. -/
def interval (mantissa : Nat) (exponent : Int) : Interval :=
  let below := if mantissa = normalMantissa ∧ minExponent < exponent then 1 else 2
  let (scale, den) := scaleTwo 1 4 exponent
  ⟨(4 * mantissa - below) * scale, 4 * mantissa * scale, (4 * mantissa + 2) * scale, den,
    mantissa % 2 = 0⟩

/-- The interval with all its numbers multiplied by `10 ^ k`. -/
def Interval.scaleTen (i : Interval) (k : Int) : Interval :=
  if 0 ≤ k then
    let p := Nat.pow 10 k.toNat
    { i with low := i.low * p, value := i.value * p, high := i.high * p }
  else { i with den := i.den * Nat.pow 10 (-k).toNat }

def Interval.contains (i : Interval) (n : Nat) : Bool :=
  if i.closed then i.low ≤ n * i.den && n * i.den ≤ i.high
  else i.low < n * i.den && n * i.den < i.high

/-- The whole number in the interval that is nearest to its value, an even one of two. -/
def Interval.nearest? (i : Interval) : Option Nat :=
  let down := i.value / i.den
  let up := down + 1
  let toDown := i.value - down * i.den
  let toUp := up * i.den - i.value
  match i.contains down, i.contains up with
  | true, true =>
    some (if toDown < toUp ∨ (toDown = toUp ∧ down % 2 = 0) then down else up)
  | true, false => some down
  | false, true => some up
  | false, false => none

/-- The greatest `e` with `10 ^ e ≤ num / den`, for positive numbers above `10 ^ (-400)`. -/
def log10Quotient (num den : Nat) : Int :=
  if den ≤ num then (Nat.toDigits 10 (num / den)).length - 1
  else (Nat.toDigits 10 (num * Nat.pow 10 400 / den)).length - 401

/-- The shortest decimal number that reads back as `mantissa * 2 ^ exponent`. Seventeen digits are
always enough. -/
def shortest (mantissa : Nat) (exponent : Int) : Decimal :=
  let i := interval mantissa exponent
  let top := log10Quotient i.value i.den
  let found := (List.range 17).findSome? fun (n : Nat) =>
    let k := top - n
    ((i.scaleTen (-k)).nearest?).map (Decimal.mk · k)
  match found with
  | some d => d.strip 20
  | none => ⟨i.value / i.den, 0⟩

/-- How a number is laid out: the powers of ten between which its first digit stands when it is
written without an exponent, and the least count of digits in an exponent. -/
structure Layout where
  lowestPower : Int
  highestPower : Int
  exponentDigits : Nat

/-- Numbers from `0.0001` to below `10 ^ 16` are written without an exponent. -/
def layout : Layout := ⟨-4, 15, 2⟩

/-- The decimal number in a layout, always with a point or an exponent. -/
def Layout.write (l : Layout) (d : Decimal) : List Char :=
  let ds := Nat.toDigits 10 d.digits
  let power : Int := d.exponent + ds.length - 1
  if l.lowestPower ≤ power ∧ power ≤ l.highestPower then
    if 0 ≤ d.exponent then ds ++ List.replicate d.exponent.toNat '0' ++ ['.', '0']
    else if 0 ≤ power then ds.take (power.toNat + 1) ++ '.' :: ds.drop (power.toNat + 1)
    else '0' :: '.' :: List.replicate ((-power).toNat - 1) '0' ++ ds
  else
    let sign := if power < 0 then '-' else '+'
    let es := Nat.toDigits 10 power.natAbs
    let tail := 'e' :: sign :: List.replicate (l.exponentDigits - es.length) '0' ++ es
    match ds with
    | [] => tail
    | [c] => c :: tail
    | c :: rest => c :: '.' :: rest ++ tail

def write : Double → List Char
  | finite negative m e =>
    (if negative then ['-'] else []) ++
      (if m = 0 then ['0', '.', '0'] else layout.write (shortest m e))
  | infinite negative => (if negative then ['-'] else []) ++ ['i', 'n', 'f']
  | nan => ['n', 'a', 'n']

def text (x : Double) : String := String.ofList x.write

end BlogConsole.Double
