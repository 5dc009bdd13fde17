/-!
White space in the sense of the Unicode property, and ASCII letters regardless of case.
-/

namespace Settlement.Text

def isBlank (c : Char) : Bool :=
  let n := c.toNat
  (0x09 ≤ n && n ≤ 0x0D) || n = 0x20 || n = 0x85 || n = 0xA0 || n = 0x1680 ||
    (0x2000 ≤ n && n ≤ 0x200A) || n = 0x2028 || n = 0x2029 || n = 0x202F || n = 0x205F ||
    n = 0x3000

def skipBlank (text : List Char) : List Char := text.dropWhile isBlank

def sameLetter (a b : Char) : Bool := a.toLower = b.toLower

end Settlement.Text
