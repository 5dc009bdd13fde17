/-!
Base64 with padding: three octets in four characters, the last group filled up with
equals signs.
-/

namespace Settlement.Text.Base64

def symbol (sextet : Nat) : Char :=
  if sextet < 26 then Char.ofNat ('A'.toNat + sextet)
  else if sextet < 52 then Char.ofNat ('a'.toNat + sextet - 26)
  else if sextet < 62 then Char.ofNat ('0'.toNat + sextet - 52)
  else if sextet = 62 then '+'
  else '/'

def sextet? (c : Char) : Option Nat :=
  if 'A' ≤ c ∧ c ≤ 'Z' then some (c.toNat - 'A'.toNat)
  else if 'a' ≤ c ∧ c ≤ 'z' then some (c.toNat - 'a'.toNat + 26)
  else if '0' ≤ c ∧ c ≤ '9' then some (c.toNat - '0'.toNat + 52)
  else if c = '+' then some 62
  else if c = '/' then some 63
  else none

def encode : List UInt8 → List Char
  | [] => []
  | [a] =>
      [symbol (a.toNat / 4), symbol (a.toNat % 4 * 16), '=', '=']
  | [a, b] =>
      [symbol (a.toNat / 4), symbol (a.toNat % 4 * 16 + b.toNat / 16), symbol (b.toNat % 16 * 4), '=']
  | a :: b :: c :: rest =>
      symbol (a.toNat / 4) :: symbol (a.toNat % 4 * 16 + b.toNat / 16) ::
        symbol (b.toNat % 16 * 4 + c.toNat / 64) :: symbol (c.toNat % 64) :: encode rest

def decode? : List Char → Option (List UInt8)
  | [] => some []
  | [a, b, '=', '='] => do
      return [UInt8.ofNat ((← sextet? a) * 4 + (← sextet? b) / 16)]
  | [a, b, c, '='] => do
      let second ← sextet? b
      let third ← sextet? c
      return [UInt8.ofNat ((← sextet? a) * 4 + second / 16), UInt8.ofNat (second % 16 * 16 + third / 4)]
  | a :: b :: c :: d :: rest => do
      let second ← sextet? b
      let third ← sextet? c
      let octets ← decode? rest
      return UInt8.ofNat ((← sextet? a) * 4 + second / 16) ::
        UInt8.ofNat (second % 16 * 16 + third / 4) ::
        UInt8.ofNat (third % 4 * 64 + (← sextet? d)) :: octets
  | _ => none

end Settlement.Text.Base64
