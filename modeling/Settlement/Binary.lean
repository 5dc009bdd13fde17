/-!
Finite doubles, each a whole coefficient times a power of two. What lies between two of
them is rounded to the nearer one, and in a tie to the one with the even coefficient.
-/

namespace Settlement

structure Binary where
  negative : Bool
  coefficient : Nat
  exponent : Int
  deriving DecidableEq

namespace Binary

def leastExponent : Int := -1074

def ofBits? (bits : Nat) : Option Binary :=
  let fraction : Nat := bits % 0x10_0000_0000_0000
  let power : Nat := bits / 0x10_0000_0000_0000 % 0x800
  let negative : Bool := bits / 0x8000_0000_0000_0000 % 2 = 1
  if power = 2047 then none
  else if power = 0 then some ⟨negative, fraction, leastExponent⟩
  else some ⟨negative, 0x10_0000_0000_0000 + fraction, (power : Int) - 1075⟩

def roundHalfEven (numerator denominator : Nat) : Nat :=
  let quotient := numerator / denominator
  let twice := 2 * (numerator % denominator)
  if twice < denominator then quotient
  else if denominator < twice then quotient + 1
  else quotient + quotient % 2

def scaled (value : Binary) (scale : Nat) : Nat :=
  if 0 ≤ value.exponent then value.coefficient * scale * Nat.pow 2 value.exponent.toNat
  else roundHalfEven (value.coefficient * scale) (Nat.pow 2 (-value.exponent).toNat)

/-- The power of two of the place at which a positive fraction is rounded. Fifty-three binary
digits are kept, or fewer where the place would be too small. -/
def lastPlace (numerator denominator : Nat) : Int :=
  let size : Int := (numerator.log2 : Int) - denominator.log2
  let reaches := denominator * Nat.pow 2 size.toNat ≤ numerator * Nat.pow 2 (-size).toNat
  max (size - (if reaches then 52 else 53)) leastExponent

def nearest (numerator denominator : Nat) : Binary :=
  let place := lastPlace numerator denominator
  ⟨false, roundHalfEven (numerator * Nat.pow 2 (-place).toNat)
    (denominator * Nat.pow 2 place.toNat), place⟩

def value (double : Binary) : Rat :=
  let magnitude := mkRat (double.coefficient * Nat.pow 2 double.exponent.toNat)
    (Nat.pow 2 (-double.exponent).toNat)
  if double.negative then -magnitude else magnitude

end Binary

end Settlement
