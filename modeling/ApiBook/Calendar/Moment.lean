/-
Moments: times of a day, with or without the difference from universal
time.

* `Moment.ofParts`: the moment with a day and the numbers of a clock;
* `Moment.text`: a moment in writing;
* `Moment.literal`, `Date.literal`: moments and days as they stand inside
  a message;
* `Calendar.Fault.message`: the wording of a fault.
-/
import ApiBook.Calendar.Date

namespace ApiBook

/-- Whether numbers are a time of a day, in hours, minutes, seconds and
millionths. -/
def Calendar.IsTime (hour minute second micro : Nat) : Prop :=
  hour < 24 ∧ minute < 60 ∧ second < 60 ∧ micro < 1000000

instance (hour minute second micro : Nat) :
    Decidable (Calendar.IsTime hour minute second micro) :=
  inferInstanceAs (Decidable (_ ∧ _))

/-- A moment. The difference from universal time is in minutes, and less
than a day. -/
structure Moment where
  date : Date
  hour : Nat
  minute : Nat
  second : Nat
  micro : Nat
  offset : Option { m : Int // m.natAbs < 1440 }
  isTime : Calendar.IsTime hour minute second micro
  deriving DecidableEq

namespace Moment

/-- A difference from universal time. -/
def offset? (minutes : Int) :
    Except Calendar.Fault { m : Int // m.natAbs < 1440 } :=
  if h : minutes.natAbs < 1440 then .ok ⟨minutes, h⟩
  else .error (.offset minutes)

/-- The moment with a day and the numbers of a clock. -/
def ofParts (date : Date) (hour minute second micro : Nat)
    (offset : Option { m : Int // m.natAbs < 1440 }) :
    Except Calendar.Fault Moment :=
  if h : Calendar.IsTime hour minute second micro then
    .ok ⟨date, hour, minute, second, micro, offset, h⟩
  else if 24 ≤ hour then .error .hour
  else if 60 ≤ minute then .error .minute
  else .error .second

/-! ### Writing -/

/-- A difference from universal time in writing. -/
def offsetText (minutes : Int) : String :=
  (if minutes < 0 then "-" else "+")
    ++ Calendar.padded 2 (minutes.natAbs / 60) ++ ":"
    ++ Calendar.padded 2 (minutes.natAbs % 60)

/-- A moment in writing. -/
def text (m : Moment) : String :=
  m.date.text ++ " " ++ Calendar.padded 2 m.hour ++ ":"
    ++ Calendar.padded 2 m.minute ++ ":" ++ Calendar.padded 2 m.second
    ++ (if m.micro = 0 then "" else "." ++ Calendar.padded 6 m.micro)
    ++ (match m.offset with
      | some o => offsetText o.1
      | none => "")

end Moment

/-! ### In messages -/

namespace Calendar

/-- Words with their arguments in brackets. -/
def call (name : String) (arguments : List String) : String :=
  name ++ "(" ++ ", ".intercalate arguments ++ ")"

/-- A span of minutes as it stands inside a message: whole days, and the
seconds beyond them. -/
def spanLiteral (minutes : Int) : String :=
  let days := minutes.fdiv 1440
  let seconds := minutes.fmod 1440 * 60
  let parts := (if days = 0 then [] else ["days=" ++ Decimal.text days])
    ++ (if seconds = 0 then [] else ["seconds=" ++ Decimal.text seconds])
  call "datetime.timedelta" (if parts.isEmpty then ["0"] else parts)

/-- A difference from universal time as it stands inside a message. -/
def offsetLiteral (minutes : Int) : String :=
  if minutes = 0 then "datetime.timezone.utc"
  else call "datetime.timezone" [spanLiteral minutes]

/-- The wording of a fault. -/
def Fault.message : Fault → String
  | year n => "year " ++ Decimal.text n ++ " is out of range"
  | month => "month must be in 1..12"
  | day => "day is out of range for month"
  | hour => "hour must be in 0..23"
  | minute => "minute must be in 0..59"
  | second => "second must be in 0..59"
  | offset minutes =>
    "offset must be a timedelta strictly between -timedelta(hours=24)"
      ++ " and timedelta(hours=24), not " ++ spanLiteral minutes ++ "."

end Calendar

/-- A day as it stands inside a message. -/
def Date.literal (d : Date) : String :=
  Calendar.call "datetime.date" (d.parts.map fun (n : Nat) => Decimal.text n)

/-- The numbers of a clock, without zeros at their end where they stand
for seconds or less. -/
def Moment.clock (m : Moment) : List Nat :=
  [m.hour, m.minute]
    ++ (if m.second = 0 && m.micro = 0 then [] else [m.second])
    ++ (if m.micro = 0 then [] else [m.micro])

/-- A moment as it stands inside a message. -/
def Moment.literal (m : Moment) : String :=
  let numbers := (m.date.parts ++ m.clock).map fun (n : Nat) =>
    Decimal.text n
  let zone := match m.offset with
    | some o => ["tzinfo=" ++ Calendar.offsetLiteral o.1]
    | none => []
  Calendar.call "datetime.datetime" (numbers ++ zone)

end ApiBook
