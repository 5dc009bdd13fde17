import Settlement.Text.Decimal

/-!
Points in time on the civil calendar in UTC, to the nanosecond. A second may be the
sixtieth, which is a leap second. Written texts have as many fraction digits, in
groups of three, as the value needs.
-/

namespace Settlement

/-- A date and a time of day, not yet checked against the calendar. -/
structure Moment where
  year : Int
  month : Nat
  day : Nat
  hour : Nat
  minute : Nat
  second : Nat
  nanosecond : Nat
  deriving DecidableEq

namespace Moment

def isLeapYear (year : Int) : Bool :=
  year % 4 = 0 && (year % 100 ≠ 0 || year % 400 = 0)

def daysIn (year : Int) (month : Nat) : Nat :=
  if month = 2 then (if isLeapYear year then 29 else 28)
  else if month = 4 ∨ month = 6 ∨ month = 9 ∨ month = 11 then 30
  else 31

def minYear : Int := -262143

def maxYear : Int := 262142

variable (moment : Moment)

def IsValid : Prop :=
  (minYear ≤ moment.year ∧ moment.year ≤ maxYear) ∧
  (1 ≤ moment.month ∧ moment.month ≤ 12) ∧
  (1 ≤ moment.day ∧ moment.day ≤ daysIn moment.year moment.month) ∧
  moment.hour ≤ 23 ∧ moment.minute ≤ 59 ∧ moment.second ≤ 60 ∧ moment.nanosecond < 1_000_000_000

instance : Decidable moment.IsValid := by unfold IsValid; infer_instance

def nextDay : Moment :=
  if moment.day < daysIn moment.year moment.month then { moment with day := moment.day + 1 }
  else if moment.month < 12 then { moment with month := moment.month + 1, day := 1 }
  else { moment with year := moment.year + 1, month := 1, day := 1 }

def previousDay : Moment :=
  if 1 < moment.day then { moment with day := moment.day - 1 }
  else if 1 < moment.month then
    { moment with month := moment.month - 1, day := daysIn moment.year (moment.month - 1) }
  else { moment with year := moment.year - 1, month := 12, day := 31 }

def atMinute (minutes : Nat) : Moment :=
  { moment with hour := minutes / 60, minute := minutes % 60 }

/-- The same instant on a clock that is the given number of minutes behind, less than a day. -/
def behind (minutes : Int) : Moment :=
  let total : Int := moment.hour * 60 + moment.minute - minutes
  if total < 0 then moment.previousDay.atMinute (total + 1440).toNat
  else if 1440 ≤ total then moment.nextDay.atMinute (total - 1440).toNat
  else moment.atMinute total.toNat

/-- Years of up to four digits have no sign, all others do. -/
def yearText (year : Int) : String :=
  if 0 ≤ year ∧ year ≤ 9999 then Text.Decimal.padded 4 year.toNat
  else (if year < 0 then "-" else "+") ++ Text.Decimal.padded 4 year.natAbs

def fractionText (nanosecond : Nat) : String :=
  if nanosecond = 0 then ""
  else if nanosecond % 1000000 = 0 then "." ++ Text.Decimal.padded 3 (nanosecond / 1000000)
  else if nanosecond % 1000 = 0 then "." ++ Text.Decimal.padded 6 (nanosecond / 1000)
  else "." ++ Text.Decimal.padded 9 nanosecond

def text : String :=
  yearText moment.year ++ "-" ++ Text.Decimal.padded 2 moment.month ++ "-" ++
    Text.Decimal.padded 2 moment.day ++ "T" ++ Text.Decimal.padded 2 moment.hour ++ ":" ++
    Text.Decimal.padded 2 moment.minute ++ ":" ++ Text.Decimal.padded 2 moment.second ++
    fractionText moment.nanosecond

end Moment

structure Timestamp extends Moment where
  valid : toMoment.IsValid
  deriving DecidableEq

namespace Timestamp

def ofMoment? (moment : Moment) : Option Timestamp :=
  if valid : moment.IsValid then some ⟨moment, valid⟩ else none

def shown (time : Timestamp) : String := time.text ++ "Z"

/-- The form kept in a column, which is also what orders and windows compare. -/
def stored (time : Timestamp) : String := time.text ++ "+00:00"

end Timestamp

end Settlement
