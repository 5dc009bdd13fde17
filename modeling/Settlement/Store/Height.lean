import Settlement.Text.Decimal

/-!
Block heights. The chain counts in unsigned 64-bit numbers and a column holds a
signed one, so a height above the signed range has no stored form, and a stored
negative number is shown as the unsigned number with the same bits.
-/

namespace Settlement.Height

def stored? (height : Nat) : Option Int :=
  if height ≤ Text.Decimal.maxSigned then some height else none

def shown (stored : Int) : Nat := (stored % 0x1_0000_0000_0000_0000).toNat

/-- The next unsigned number. After the greatest one, 2^64 - 1, the addition overflows, which is a
panic or a wrap to zero by the build profile; `none` stands for both. -/
def next? (height : Nat) : Option Nat :=
  if height < Text.Decimal.maxUnsigned then some (height + 1) else none

end Settlement.Height
