/-!
Whole numbers in ASCII digits. A number is read only if its text is digits from
end to end, apart from one sign, and if its value lies within the given limit;
a fixed-width number is written with leading zeros.
-/

namespace Settlement.Text.Decimal

def maxUnsigned : Nat := 0xffff_ffff_ffff_ffff

def maxSigned : Nat := 0x7fff_ffff_ffff_ffff

def isDigit (c : Char) : Bool := '0' ≤ c && c ≤ '9'

def digitValue (c : Char) : Nat := c.toNat - '0'.toNat

def value (digits : List Char) : Nat :=
  digits.foldl (fun number digit => 10 * number + digitValue digit) 0

def digits? (text : List Char) : Option Nat :=
  if text.isEmpty then none
  else if text.all isDigit then some (value text)
  else none

def atMost (limit number : Nat) : Option Nat := if number ≤ limit then some number else none

/-- At most one plus sign may stand before the digits. -/
def naturalUpTo? (limit : Nat) : List Char → Option Nat
  | '+' :: text => digits? text >>= atMost limit
  | text => digits? text >>= atMost limit

def unsigned? (text : String) : Option Nat := naturalUpTo? maxUnsigned text.toList

/-- At most one sign may stand before the digits; a minus reaches one number further. -/
def signed? (text : String) : Option Int :=
  match text.toList with
  | '-' :: digits => (digits? digits >>= atMost (maxSigned + 1)).map fun number => -(number : Int)
  | digits => (naturalUpTo? maxSigned digits).map Int.ofNat

def padded (width number : Nat) : String :=
  let digits := toString number
  "".pushn '0' (width - digits.length) ++ digits

end Settlement.Text.Decimal
