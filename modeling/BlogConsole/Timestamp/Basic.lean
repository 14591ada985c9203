import BlogConsole.Timestamp.Date

/-!
Timestamps: a date, a time of day to the microsecond, and the offset from UTC if it is known.

They are written as `YYYY-MM-DDTHH:MM:SS`, then six digits of a fraction unless it is zero, then
the offset: `Z` for zero, otherwise a sign with hours and minutes. What an offset has beyond whole
minutes is lost in writing.
-/

namespace BlogConsole

structure TimeOfDay where
  hour : Nat
  minute : Nat
  second : Nat
  micros : Nat
  hour_lt : hour < 24
  minute_lt : minute < 60
  second_lt : second < 60
  micros_lt : micros < 1000000
  deriving DecidableEq, Repr

namespace TimeOfDay

def ofParts? (hour minute second micros : Nat) : Option TimeOfDay :=
  if h : hour < 24 ∧ minute < 60 ∧ second < 60 ∧ micros < 1000000 then
    some ⟨hour, minute, second, micros, h.1, h.2.1, h.2.2.1, h.2.2.2⟩
  else none

theorem ofParts?_self (t : TimeOfDay) :
    ofParts? t.hour t.minute t.second t.micros = some t := by
  simp [ofParts?, t.hour_lt, t.minute_lt, t.second_lt, t.micros_lt]

def midnight : TimeOfDay := ⟨0, 0, 0, 0, by decide, by decide, by decide, by decide⟩

end TimeOfDay

/-- An offset from UTC in microseconds, of less than a day. A time zone is known by the offset that
it has at a point in time, and by nothing else. -/
structure UtcOffset where
  micros : Int
  bound : -86400000000 < micros ∧ micros < 86400000000
  deriving DecidableEq, Repr

namespace UtcOffset

/-- The offset of a number of minutes, if it is less than a day. -/
def ofMinutes? (minutes : Int) : Option UtcOffset :=
  if h : -1440 < minutes ∧ minutes < 1440 then some ⟨60000000 * minutes, by omega⟩ else none

def zero : UtcOffset := ⟨0, by decide⟩

/-- An offset of whole minutes. Only such offsets can be read. -/
def IsWhole (o : UtcOffset) : Prop := o.micros % 60000000 = 0

instance (o : UtcOffset) : Decidable o.IsWhole := inferInstanceAs (Decidable (_ = _))

/-- The nearest number of seconds, away from zero in case of doubt. -/
def seconds (o : UtcOffset) : Int := o.micros.sign * ((o.micros.natAbs + 500000) / 1000000)

end UtcOffset

/-- A point in time; without an offset it is a local one. -/
structure Timestamp where
  date : Date
  time : TimeOfDay
  offset : Option UtcOffset
  deriving DecidableEq, Repr

namespace Timestamp

/-- A timestamp whose offset is one of whole minutes, if it has one. -/
def IsWhole (t : Timestamp) : Prop := ∀ o ∈ t.offset, o.IsWhole

instance (t : Timestamp) : Decidable t.IsWhole := inferInstanceAs (Decidable (∀ o ∈ t.offset, _))

/-- A number in decimal digits, filled with zeros to a width. -/
def padded (width n : Nat) : List Char :=
  let ds := Nat.toDigits 10 n
  List.replicate (width - ds.length) '0' ++ ds

/-- An offset as it is written. Only whole seconds are looked at, and only whole minutes of them are
written. -/
def writeOffset : Option UtcOffset → List Char
  | none => []
  | some o =>
    if o.seconds = 0 then ['Z']
    else (if o.seconds < 0 then '-' else '+') :: padded 2 (o.seconds.natAbs / 3600) ++
      ':' :: padded 2 (o.seconds.natAbs / 60 % 60)

def write (t : Timestamp) : List Char :=
  padded 4 t.date.year ++ '-' :: padded 2 t.date.month ++ '-' :: padded 2 t.date.day ++
    'T' :: padded 2 t.time.hour ++ ':' :: padded 2 t.time.minute ++ ':' :: padded 2 t.time.second ++
    (if t.time.micros = 0 then [] else '.' :: padded 6 t.time.micros) ++ writeOffset t.offset

def text (t : Timestamp) : String := String.ofList t.write

/-- The timestamp a number of days earlier, at the same time of day, if its year is at least 1. -/
def daysEarlier? (t : Timestamp) (days : Nat) : Option Timestamp :=
  (t.date.earlier? days).map fun d => { t with date := d }

end Timestamp

end BlogConsole
