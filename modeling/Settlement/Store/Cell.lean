import Settlement.Binary
import Settlement.Text.Numeral

/-!
What a number column holds. A text that is a numeral, with spaces around it or without,
becomes a number, and any other text stays. A whole number in the signed range is kept
exactly if it is written in digits alone, and is otherwise rounded to a double, which
then is a whole number again if it is one strictly between the ends of the range.
-/

namespace Settlement.Store

open Text

inductive Cell where
  | number (value : Int)
  /-- A double that is no whole number of the range. -/
  | real (value : Rat)
  | text (value : String)
  deriving DecidableEq

namespace Cell

/-- Numbers stand before texts, and texts in the order of their code points. -/
def atMost : Cell → Cell → Bool
  | .number a, .number b => a ≤ b
  | .number a, .real b => (a : Rat) ≤ b
  | .real a, .number b => a ≤ (b : Rat)
  | .real a, .real b => a ≤ b
  | .text a, .text b => !(b < a)
  | .text _, _ => false
  | _, .text _ => true

def isBelow (limit : Int) : Cell → Bool
  | .number value => value < limit
  | .real value => value < (limit : Rat)
  | .text _ => false

def isSpace (c : Char) : Bool := c = ' ' || ('\t' ≤ c && c ≤ '\r')

def trimSpaces (text : List Char) : List Char :=
  ((text.dropWhile isSpace).reverse.dropWhile isSpace).reverse

def least : Int := -(Decimal.maxSigned + 1 : Int)

def greatest : Int := Decimal.maxSigned

/-- Where the doubles end; it stands for every number that is too great for them. -/
def beyondDoubles : Rat := Nat.pow 2 1024

/-- The magnitude of a numeral as a double. The first digit tells whether the double is far
beyond all others or nothing at all, however great the exponent is. -/
def magnitude (numeral : Numeral) : Rat :=
  if numeral.coefficient = 0 || numeral.size < -400 then 0
  else if 400 < numeral.size then beyondDoubles
  else
    let double := (Binary.nearest numeral.fraction.1 numeral.fraction.2).value
    if double < beyondDoubles then double else beyondDoubles

def ofDouble (value : Rat) : Cell :=
  if value.den = 1 && least < value.num && value.num < greatest then .number value.num
  else .real value

def ofNumeral (numeral : Numeral) : Cell :=
  let whole : Int := if numeral.negative then -numeral.coefficient else numeral.coefficient
  if numeral.isPlain && least ≤ whole && whole ≤ greatest then .number whole
  else ofDouble (if numeral.negative then -magnitude numeral else magnitude numeral)

def ofText (text : String) : Cell :=
  ((Numeral.ofText? (trimSpaces text.toList)).map ofNumeral).getD (.text text)

end Cell

end Settlement.Store
