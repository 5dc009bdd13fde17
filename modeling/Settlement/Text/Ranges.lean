/-!
Sets of characters as ranges of code points, both ends included.
-/

namespace Settlement.Text

def within (ranges : List (Nat × Nat)) (c : Char) : Bool :=
  ranges.any fun range => range.1 ≤ c.toNat && c.toNat ≤ range.2

end Settlement.Text
