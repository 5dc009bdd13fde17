/-!
Octets written as two hex digits each, in either case. A text with an odd number of
octets is refused as a whole; otherwise the first octet that is no digit is named.
-/

namespace Settlement.Text.Hex

inductive Fault where
  | oddLength
  | invalidOctet (octet position : Nat)
  deriving DecidableEq

def digit? (c : Char) : Option Nat :=
  if '0' ≤ c ∧ c ≤ '9' then some (c.toNat - '0'.toNat)
  else if 'a' ≤ c ∧ c ≤ 'f' then some (c.toNat - 'a'.toNat + 10)
  else if 'A' ≤ c ∧ c ≤ 'F' then some (c.toNat - 'A'.toNat + 10)
  else none

def firstOctet (c : Char) : Nat :=
  let n := c.toNat
  if n < 0x80 then n
  else if n < 0x800 then 0xC0 + n / 0x40
  else if n < 0x10000 then 0xE0 + n / 0x1000
  else 0xF0 + n / 0x40000

def octetCount (text : List Char) : Nat := (text.map Char.utf8Size).foldl (· + ·) 0

def pairs (position : Nat) : List Char → Except Fault (List UInt8)
  | [] => .ok []
  | high :: rest =>
    match digit? high, rest with
    | none, _ => .error (.invalidOctet (firstOctet high) position)
    | some _, [] => .error .oddLength
    | some upper, low :: rest =>
      match digit? low with
      | none => .error (.invalidOctet (firstOctet low) (position + 1))
      | some lower => do
          let octets ← pairs (position + 2) rest
          return UInt8.ofNat (16 * upper + lower) :: octets

def decode (text : List Char) : Except Fault (List UInt8) :=
  if octetCount text % 2 = 1 then .error .oddLength else pairs 0 text

end Settlement.Text.Hex
