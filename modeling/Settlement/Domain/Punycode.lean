/-!
Labels written in ASCII alone. The ASCII characters of a label come first, and behind the
last hyphen the others follow in ascending order, each as the number of steps that a walk
over all places and all characters takes from the one before. Numbers are written in
thirty-six digits, the low ones first, of which one below its threshold is the last.
-/

namespace Settlement.Domain.Punycode

def digit? (c : Char) : Option Nat :=
  if 'a' ≤ c ∧ c ≤ 'z' then some (c.toNat - 'a'.toNat)
  else if 'A' ≤ c ∧ c ≤ 'Z' then some (c.toNat - 'A'.toNat)
  else if c.isDigit then some (c.toNat - '0'.toNat + 26)
  else none

def threshold (bias place : Nat) : Nat := min 26 (max 1 (place - bias))

def reduce (number : Nat) : Nat × Nat :=
  if number ≤ 455 then (0, number)
  else
    let (times, left) := reduce (number / 35)
    (times + 1, left)
termination_by number

/-- The bias that suits the next number, which is likely to be as long as this one. -/
def adapt (steps count : Nat) (isFirst : Bool) : Nat :=
  let steps := if isFirst then steps / 700 else steps / 2
  let (times, left) := reduce (steps + steps / count)
  36 * times + 36 * left / (left + 38)

def limit : Nat := 0x1_0000_0000

def number? (bias sum weight place : Nat) : List Char → Option (Nat × List Char)
  | [] => none
  | c :: rest => do
      let digit ← digit? c
      let sum := sum + digit * weight
      if limit ≤ sum then none
      else if digit < threshold bias place then return (sum, rest)
      else
        let weight := weight * (36 - threshold bias place)
        if limit ≤ weight then none else number? bias sum weight (place + 36) rest

/-- Each number takes at least one character, so fuel for each character is enough. -/
def insertAll (fuel bias position code : Nat) (text : List Char) :
    List Char → Option (List Char)
  | [] => some text
  | c :: rest =>
    match fuel with
    | 0 => none
    | fuel + 1 => do
      let (sum, rest) ← number? bias position 1 36 (c :: rest)
      let count := text.length + 1
      let code := code + sum / count
      let place := sum % count
      if code.isValidChar then
        insertAll fuel (adapt (sum - position) count (position = 0)) (place + 1) code
          (text.take place ++ Char.ofNat code :: text.drop place) rest
      else none

/-- Hyphens but the last are ASCII characters like others. -/
def decode? (text : List Char) : Option (List Char) :=
  let numbers := (text.reverse.takeWhile (· ≠ '-')).reverse
  let plain := (text.take (text.length - numbers.length)).dropLast
  if plain.any (fun c => 0x80 ≤ c.toNat) || (plain.isEmpty && text.contains '-') then none
  else insertAll text.length 72 0 128 plain numbers

end Settlement.Domain.Punycode
