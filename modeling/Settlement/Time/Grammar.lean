import Settlement.Text.Blank
import Settlement.Time.Timestamp

/-!
The parts of a written time: numbers of a few digits, years with a sign, fractions of
a second and offsets from UTC. Each reader gives its value and the rest of the text.
-/

namespace Settlement.Time

open Text

def number? (most : Nat) (text : List Char) : Option (Nat × List Char) :=
  let digits := (text.take most).takeWhile Decimal.isDigit
  if digits.isEmpty then none else some (Decimal.value digits, text.drop digits.length)

def exactly? (count : Nat) (text : List Char) : Option (Nat × List Char) :=
  let digits := text.take count
  if digits.length = count ∧ digits.all Decimal.isDigit then
    some (Decimal.value digits, text.drop count)
  else none

/-- Up to four digits, or any number of them behind a sign. -/
def year? : List Char → Option (Int × List Char)
  | '-' :: text => (number? text.length text).map fun (year, rest) => (-(year : Int), rest)
  | '+' :: text => (number? text.length text).map fun (year, rest) => ((year : Int), rest)
  | text => (number? 4 text).map fun (year, rest) => ((year : Int), rest)

def mark? (mark : Char) : List Char → Option (List Char)
  | c :: rest => if c = mark then some rest else none
  | [] => none

/-- A missing fraction is zero; digits after the ninth are dropped. -/
def fraction? : List Char → Option (Nat × List Char)
  | '.' :: text =>
      let digits := text.takeWhile Decimal.isDigit
      if digits.isEmpty then none
      else
        let kept := digits.take 9
        some (Decimal.value kept * Nat.pow 10 (9 - kept.length), text.drop digits.length)
  | text => some (0, text)

def separator? : List Char → Option (List Char)
  | c :: rest => if c = 'T' ∨ c = 't' ∨ c = ' ' then some rest else none
  | [] => none

def sign? : List Char → Option (Bool × List Char)
  | '+' :: rest => some (false, rest)
  | '-' :: rest => some (true, rest)
  | '\u2212' :: rest => some (true, rest)
  | _ => none

def signedOffset? (between : List Char → Option (List Char)) (text : List Char) :
    Option (Int × List Char) := do
  let (negative, rest) ← sign? text
  let (hours, rest) ← exactly? 2 rest
  let rest ← between rest
  let (minutes, rest) ← exactly? 2 rest
  if minutes ≤ 59 then
    let magnitude : Int := hours * 60 + minutes
    return (if negative then -magnitude else magnitude, rest)
  else none

def looseColon (text : List Char) : Option (List Char) :=
  some (text.dropWhile fun c => c = ':' || isBlank c)

def inDay (offset : Int) : Bool := -1440 < offset && offset < 1440

def inUtc? (moment : Moment) (offset : Int) : Option Timestamp :=
  if moment.IsValid ∧ inDay offset then Timestamp.ofMoment? (moment.behind offset) else none

end Settlement.Time
