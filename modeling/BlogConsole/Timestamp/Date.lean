/-!
Dates of the Gregorian calendar, carried back before its introduction, in the years 1 to 9999.
-/

namespace BlogConsole

def isLeapYear (year : Nat) : Bool := year % 4 = 0 && (year % 100 ≠ 0 || year % 400 = 0)

/-- The number of days in a month, the first month being 1. -/
def daysInMonth (year month : Nat) : Nat :=
  if month = 2 then (if isLeapYear year then 29 else 28)
  else if month = 4 ∨ month = 6 ∨ month = 9 ∨ month = 11 then 30
  else 31

structure Date where
  year : Nat
  month : Nat
  day : Nat
  year_mem : 1 ≤ year ∧ year ≤ 9999
  month_mem : 1 ≤ month ∧ month ≤ 12
  day_mem : 1 ≤ day ∧ day ≤ daysInMonth year month
  deriving DecidableEq, Repr

namespace Date

def ofParts? (year month day : Nat) : Option Date :=
  if hy : 1 ≤ year ∧ year ≤ 9999 then
    if hm : 1 ≤ month ∧ month ≤ 12 then
      if hd : 1 ≤ day ∧ day ≤ daysInMonth year month then some ⟨year, month, day, hy, hm, hd⟩
      else none
    else none
  else none

theorem ofParts?_self (d : Date) : ofParts? d.year d.month d.day = some d := by
  simp [ofParts?, d.year_mem, d.month_mem, d.day_mem]

def daysBeforeYear (year : Nat) : Nat :=
  let y := year - 1
  365 * y + y / 4 - y / 100 + y / 400

def daysBeforeMonth (year month : Nat) : Nat :=
  (List.range (month - 1)).foldl (fun days m => days + daysInMonth year (m + 1)) 0

/-- The number of days before a date, counted from the first day of year 1. -/
def dayNumber (d : Date) : Nat :=
  daysBeforeYear d.year + daysBeforeMonth d.year d.month + (d.day - 1)

/-- The year in which the day with a number lies, and the number of days of that year before it.
The calendar repeats after 400 years. -/
def yearOfDay (n : Nat) : Nat × Nat :=
  let (q400, r) := (n / 146097, n % 146097)
  let q100 := min 3 (r / 36524)
  let r := r - 36524 * q100
  let (q4, r) := (r / 1461, r % 1461)
  let q1 := min 3 (r / 365)
  (400 * q400 + 100 * q100 + 4 * q4 + q1 + 1, r - 365 * q1)

/-- The month and the day of the day with a number in its year. The first argument counts the
months from `month` on. -/
def monthOfDay (year : Nat) : Nat → Nat → Nat → Nat × Nat
  | 0, month, n => (month, n + 1)
  | left + 1, month, n =>
    if n < daysInMonth year month then (month, n + 1)
    else monthOfDay year left (month + 1) (n - daysInMonth year month)

/-- The date with a number of days before it, if it lies in the years 1 to 9999. -/
def ofDayNumber? (n : Int) : Option Date :=
  if n < 0 then none
  else
    let (year, rest) := yearOfDay n.toNat
    let (month, day) := monthOfDay year 11 1 rest
    ofParts? year month day

/-- The date a number of days earlier, if it lies in the years 1 to 9999. -/
def earlier? (d : Date) (days : Nat) : Option Date := ofDayNumber? (d.dayNumber - days)

end Date

end BlogConsole
