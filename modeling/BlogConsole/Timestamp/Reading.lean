import BlogConsole.Json.Basic
import BlogConsole.Text.Digit
import BlogConsole.Text.Encoding
import BlogConsole.Timestamp.Basic

/-!
Reading timestamps from text and from numbers.

A text is a date, or a date with a time and perhaps an offset, or a number. A number counts the
time since the start of 1970 in UTC: seconds, or milliseconds when it is greater than
`20 000 000 000`. Whole numbers are exact; with other numbers the way to whole microseconds goes
through double-precision numbers, each step rounded. A text that is a number of no timestamp is
faulted as a date.
-/

namespace BlogConsole.Timestamp

/-- Why the beginning of a text is no date. -/
inductive DateCause
  | tooShort
  | yearDigit
  | separator
  | monthDigit
  | dayDigit
  | monthRange
  | dayRange
  | extraCharacters
  | late
  | early
  deriving DecidableEq, Repr

def DateCause.message : DateCause → String
  | tooShort => "input is too short"
  | yearDigit => "invalid character in year"
  | separator => "invalid date separator, expected `-`"
  | monthDigit => "invalid character in month"
  | dayDigit => "invalid character in day"
  | monthRange => "month value is outside expected range of 1-12"
  | dayRange => "day value is outside expected range"
  | extraCharacters => "unexpected extra characters at the end of the input"
  | late => "dates after 9999 are not supported as unix timestamps"
  | early => "dates before 0000 are not supported as unix timestamps"

/-- Why a value is no timestamp. -/
inductive Cause
  | wrongType
  | loneSurrogate
  | notANumber
  | tooLate
  | tooEarly
  | yearZero
  | notADate (cause : DateCause)
  deriving DecidableEq, Repr

def Cause.message : Cause → String
  | wrongType => "Input should be a valid datetime"
  | loneSurrogate =>
    "Input should be a valid string, unable to parse raw data as a unicode string"
  | notANumber => "Input should be a valid datetime, NaN values not permitted"
  | tooLate => "Input should be a valid datetime, " ++ DateCause.late.message
  | tooEarly => "Input should be a valid datetime, " ++ DateCause.early.message
  | yearZero => "Input should be a valid datetime, year 0 is out of range"
  | notADate cause => "Input should be a valid datetime or date, " ++ cause.message

/-! ### Numbers -/

/-- Numbers greater than this count milliseconds. -/
def secondsLimit : Nat := 20000000000

def epochDay : Int := 719162

/-- The seconds at the start of the year 0 and at the end of the year 9999, since 1970. -/
def firstSecond : Int := -62167219200
@[inherit_doc firstSecond] def lastSecond : Int := 253402300799

def ofMicros (n : Int) : Except Cause Timestamp :=
  let seconds := n.fdiv 1000000
  if seconds < firstSecond then .error .tooEarly
  else if lastSecond < seconds then .error .tooLate
  else
    let inDay := (seconds.fmod 86400).toNat
    let micros := (n.fmod 1000000).toNat
    match Date.ofDayNumber? (seconds.fdiv 86400 + epochDay),
        TimeOfDay.ofParts? (inDay / 3600) (inDay / 60 % 60) (inDay % 60) micros with
    | some date, some time => .ok ⟨date, time, some .zero⟩
    | _, _ => .error .yearZero

/-- The microseconds in a second and in a millisecond. -/
def secondMicros : Nat := 1000000
@[inherit_doc secondMicros] def millisecondMicros : Nat := 1000

def ofInt (n : Int) : Except Cause Timestamp :=
  ofMicros (n * if secondsLimit < n.natAbs then millisecondMicros else secondMicros)

/-- The whole number nearest to a positive double-precision number, a half upwards. -/
def roundHalfUp : Double → Int
  | .finite _ m e =>
    let (num, den) := Double.scaleTwo m 1 e
    ((2 * num + den) / (2 * den) : Nat)
  | _ => 0

/-- The microseconds that are nearest to a fraction of units of `unit` microseconds. What the
fraction is greater than the whole number before it, and the microseconds of that, are rounded to
double precision. -/
def microsOfRatio (unit : Nat) (negative : Bool) (num den : Nat) : Int :=
  let n : Int := if negative then -num else num
  let whole := n.fdiv den
  let rest := Double.ofRatio false (n - whole * den).toNat den
  whole * unit + roundHalfUp (rest.scale unit 1)

def ofDouble : Double → Except Cause Timestamp
  | .nan => .error .notANumber
  | .infinite negative => .error (if negative then .tooEarly else .tooLate)
  | .finite negative m e =>
    let unit :=
      if (Double.finite negative m e).exceeds secondsLimit then millisecondMicros else secondMicros
    let (num, den) := Double.scaleTwo m 1 e
    ofMicros (microsOfRatio unit negative num den)

/-! ### Text -/

/-- A number in a text: a whole one, or one with a point. -/
inductive Number
  | whole (n : Int)
  | decimal (x : Double)
  deriving DecidableEq, Repr

/-- The number that a text spells with a sign, digits and a point. -/
def number? (cs : List Char) : Option Number :=
  let (negative, body) := Text.splitSign cs
  let whole := body.takeWhile Char.isDigit
  let digits (cs : List Char) : Nat := Text.ofDigits (cs.filterMap Text.asciiDigit?)
  match body.dropWhile Char.isDigit with
  | [] =>
    if whole.isEmpty then none
    else some (.whole (if negative then -(digits whole : Int) else digits whole))
  | c :: ds =>
    if c = '.' ∧ ds.all Char.isDigit ∧ (!whole.isEmpty || !ds.isEmpty) then
      some (.decimal (Double.ofDecimal negative (digits (whole ++ ds)) (-(ds.length : Int))))
    else none

def pair? (a b : Char) : Option Nat :=
  match Text.asciiDigit? a, Text.asciiDigit? b with
  | some m, some n => some (10 * m + n)
  | _, _ => none

def twoDigits (cause : DateCause) : List Char → Except DateCause (Nat × List Char)
  | a :: b :: cs =>
    match pair? a b with
    | some n => .ok (n, cs)
    | none => .error cause
  | _ => .error cause

def afterHyphen : List Char → Except DateCause (List Char)
  | '-' :: cs => .ok cs
  | _ => .error .separator

/-- The year, the month and the day at the start of a text, and the text after them. The year may
be zero. -/
def dateParts (cs : List Char) : Except DateCause ((Nat × Nat × Nat) × List Char) := do
  let (high, cs) ← twoDigits .yearDigit cs
  let (low, cs) ← twoDigits .yearDigit cs
  let (month, cs) ← twoDigits .monthDigit (← afterHyphen cs)
  let (day, cs) ← twoDigits .dayDigit (← afterHyphen cs)
  let year := 100 * high + low
  if month < 1 ∨ 12 < month then .error .monthRange
  else if day < 1 ∨ daysInMonth year month < day then .error .dayRange
  else .ok ((year, month, day), cs)

/-- The first six digits of a fraction as microseconds. -/
def fractionMicros (digits : List Char) : Nat :=
  Text.ofDigits ((digits ++ List.replicate 6 '0').take 6 |>.filterMap Text.asciiDigit?)

/-- The time of day at the start of a text: hours and minutes, perhaps seconds, perhaps a fraction
of any length. -/
def timeParts? (cs : List Char) : Option (TimeOfDay × List Char) :=
  match cs with
  | h1 :: h2 :: ':' :: m1 :: m2 :: cs =>
    match pair? h1 h2, pair? m1 m2 with
    | some hour, some minute =>
      match cs with
      | ':' :: s1 :: s2 :: cs =>
        match pair? s1 s2 with
        | some second =>
          match cs with
          | c :: rest =>
            if c = '.' ∨ c = ',' then
              let digits := rest.takeWhile Char.isDigit
              if digits.isEmpty then none
              else (TimeOfDay.ofParts? hour minute second (fractionMicros digits)).map
                (·, rest.dropWhile Char.isDigit)
            else (TimeOfDay.ofParts? hour minute second 0).map (·, c :: rest)
          | [] => (TimeOfDay.ofParts? hour minute second 0).map (·, [])
        | none => none
      | ':' :: _ => none
      | cs => (TimeOfDay.ofParts? hour minute 0 0).map (·, cs)
    | _, _ => none
  | _ => none

/-- The offset of hours and minutes, which are less than a day and an hour. -/
def hoursMinutes? (negative : Bool) (h1 h2 m1 m2 : Char) : Option UtcOffset :=
  match pair? h1 h2, pair? m1 m2 with
  | some hours, some minutes =>
    if hours < 24 ∧ minutes < 60 then
      let n : Int := 60 * hours + minutes
      UtcOffset.ofMinutes? (if negative then -n else n)
    else none
  | _, _ => none

/-- The offset that a whole text spells: nothing, `Z`, or a sign with hours and minutes. -/
def offset? (cs : List Char) : Option (Option UtcOffset) :=
  match cs with
  | [] => some none
  | c :: cs =>
    if c = 'Z' ∨ c = 'z' then (if cs.isEmpty then some (some .zero) else none)
    else if c = '+' ∨ c = '-' ∨ c = '\u2212' then
      match cs with
      | [h1, h2, ':', m1, m2] => (hoursMinutes? (c ≠ '+') h1 h2 m1 m2).map some
      | [h1, h2, m1, m2] => (hoursMinutes? (c ≠ '+') h1 h2 m1 m2).map some
      | _ => none
    else none

/-- The time and the offset after a date: none at all, or a separator and both. -/
def clock? (cs : List Char) : Option (TimeOfDay × Option UtcOffset) :=
  match cs with
  | [] => some (.midnight, none)
  | c :: cs =>
    if c = 'T' ∨ c = 't' ∨ c = ' ' ∨ c = '_' then
      match timeParts? cs with
      | some (time, rest) => (offset? rest).map (time, ·)
      | none => none
    else none

/-- The timestamp that a text spells as a date with a time. A date has at least ten bytes. -/
def ofCalendar (cs : List Char) : Except Cause Timestamp :=
  if (Text.encodeUtf8 cs).length < 10 then .error (.notADate .tooShort)
  else
    match dateParts cs with
    | .error cause => .error (.notADate cause)
    | .ok ((year, month, day), rest) =>
      match clock? rest with
      | none => .error (.notADate .extraCharacters)
      | some (time, offset) =>
        match Date.ofParts? year month day with
        | some date => .ok ⟨date, time, offset⟩
        | none => .error .yearZero

def wholeBound : Nat := Nat.pow 2 63

/-- The timestamp that a text spells. A number that is too early or too late is faulted as a date: a
whole one below the bound as too early or too late, any other number as a text that is no date. -/
def ofText (cs : List Char) : Except Cause Timestamp :=
  match number? cs with
  | none => ofCalendar cs
  | some (.whole n) =>
    if wholeBound ≤ n.natAbs then ofCalendar cs
    else
      match ofInt n with
      | .error .tooLate => .error (.notADate .late)
      | .error .tooEarly => .error (.notADate .early)
      | found => found
  | some (.decimal x) =>
    match ofDouble x with
    | .error .tooLate => ofCalendar cs
    | .error .tooEarly => ofCalendar cs
    | found => found

def ofJson : Json → Except Cause Timestamp
  | .string s => if s.toList.any Text.isSurrogate then .error .loneSurrogate else ofText s.toList
  | .int n => ofInt n
  | .float x => ofDouble x
  | _ => .error .wrongType

end BlogConsole.Timestamp
