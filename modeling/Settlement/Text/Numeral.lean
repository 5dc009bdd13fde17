import Settlement.Text.Decimal

/-!
Decimal numerals with a point and an exponent, both optional. Digits stand before the
point or behind it, or both.
-/

namespace Settlement.Text

/-- The digits stand for a whole number, which is scaled by a power of ten. -/
structure Numeral where
  negative : Bool
  digits : List Char
  power : Int
  isPlain : Bool
  deriving DecidableEq

namespace Numeral

def sign : List Char → Bool × List Char
  | '-' :: rest => (true, rest)
  | '+' :: rest => (false, rest)
  | text => (false, text)

def exponent? : List Char → Option Int
  | [] => some 0
  | mark :: text =>
      if mark = 'e' ∨ mark = 'E' then
        let (negative, digits) := sign text
        (Decimal.digits? digits).map fun number => if negative then -(number : Int) else number
      else none

def ofText? (text : List Char) : Option Numeral :=
  let (negative, text) := sign text
  let whole := text.takeWhile Decimal.isDigit
  let rest := text.dropWhile Decimal.isDigit
  let (hasPoint, rest) :=
    match rest with
    | '.' :: rest => (true, rest)
    | rest => (false, rest)
  let places := if hasPoint then rest.takeWhile Decimal.isDigit else []
  let rest := rest.drop places.length
  if whole.isEmpty && places.isEmpty then none
  else
    (exponent? rest).map fun exponent =>
      ⟨negative, whole ++ places, exponent - places.length, !hasPoint && rest.isEmpty⟩

variable (numeral : Numeral)

def coefficient : Nat := Decimal.value numeral.digits

/-- How many places the first digit that is not zero stands before the point; a negative
number counts the zeros behind it. -/
def size : Int := (numeral.digits.dropWhile (· = '0')).length + numeral.power

def fraction : Nat × Nat :=
  (numeral.coefficient * Nat.pow 10 numeral.power.toNat, Nat.pow 10 (-numeral.power).toNat)

end Numeral

end Settlement.Text
