/-
Days of the calendar.

* `Date`: a day of the years 1 to 9999;
* `Date.ofParts`: the day with a year, a month and a number;
* `Calendar.Fault`: why there is no such day, or no such time of a day.
-/
import ApiBook.Number.Decimal

namespace ApiBook

namespace Calendar

/-! ### Faults -/

/-- Why numbers are no day or no time. Differences from universal time
are in minutes. -/
inductive Fault where
  | year (n : Nat)
  | month
  | day
  | hour
  | minute
  | second
  | offset (minutes : Int)
  deriving DecidableEq, Repr

/-! ### Years and months -/

/-- The last year of the calendar. -/
def lastYear : Nat := 9999

/-- Whether a year has a day more. -/
def isLeap (year : Nat) : Bool :=
  year % 4 == 0 && (year % 100 != 0 || year % 400 == 0)

/-- The number of days in a month of a year. -/
def daysIn (year month : Nat) : Nat :=
  if month = 2 then (if isLeap year then 29 else 28)
  else if month = 4 || month = 6 || month = 9 || month = 11 then 30
  else 31

/-- Whether numbers are a day of the calendar. -/
def IsDate (year month day : Nat) : Prop :=
  (1 ≤ year ∧ year ≤ lastYear) ∧ (1 ≤ month ∧ month ≤ 12)
    ∧ 1 ≤ day ∧ day ≤ daysIn year month

instance (year month day : Nat) : Decidable (IsDate year month day) :=
  inferInstanceAs (Decidable (_ ∧ _))

/-- A number in decimal digits, with zeros at its head up to a width. -/
def padded (width n : Nat) : String :=
  let digits := Decimal.ofNat n
  String.ofList (List.replicate (width - digits.length) '0' ++ digits)

end Calendar

/-- A day of the calendar. -/
structure Date where
  year : Nat
  month : Nat
  day : Nat
  isDate : Calendar.IsDate year month day
  deriving DecidableEq

namespace Date

/-- The day with a year, a month and a number. -/
def ofParts (year month day : Nat) : Except Calendar.Fault Date :=
  if h : Calendar.IsDate year month day then .ok ⟨year, month, day, h⟩
  else if year = 0 || Calendar.lastYear < year then .error (.year year)
  else if month = 0 || 12 < month then .error .month
  else .error .day

/-- A day in writing. -/
def text (d : Date) : String :=
  Calendar.padded 4 d.year ++ "-" ++ Calendar.padded 2 d.month ++ "-"
    ++ Calendar.padded 2 d.day

/-- The numbers of a day. -/
def parts (d : Date) : List Nat := [d.year, d.month, d.day]

end Date

end ApiBook
