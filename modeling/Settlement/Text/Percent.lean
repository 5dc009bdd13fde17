import Settlement.Text.Hex

/-!
Octets written with a percent sign and two hex digits.
-/

namespace Settlement.Text.Percent

/-- A percent sign without two hex digits behind it stands for itself. -/
def octets : List UInt8 → List UInt8
  | [] => []
  | 0x25 :: a :: b :: rest =>
    match Hex.digit? (Char.ofNat a.toNat), Hex.digit? (Char.ofNat b.toNat) with
    | some high, some low => UInt8.ofNat (16 * high + low) :: octets rest
    | _, _ => 0x25 :: octets (a :: b :: rest)
  | octet :: rest => octet :: octets rest

def decode? (text : List Char) : Option String :=
  String.fromUTF8? ⟨(octets (String.ofList text).toUTF8.data.toList).toArray⟩

end Settlement.Text.Percent
