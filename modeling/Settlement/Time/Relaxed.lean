import Settlement.Time.Grammar

/-!
Times as the chain and clients write them: RFC 3339 with one or two digits in each
number, blanks around numbers and marks, and the zone as an offset or as UTC.
-/

namespace Settlement.Time

open Text

def field? (text : List Char) : Option (Nat × List Char) := number? 2 (skipBlank text)

def spacedMark? (mark : Char) (text : List Char) : Option (List Char) := mark? mark (skipBlank text)

def isUtcName : List Char → Bool
  | [a, b, c] => sameLetter a 'U' && sameLetter b 'T' && sameLetter c 'C'
  | _ => false

def zone? (text : List Char) : Option (Int × List Char) :=
  if isUtcName (text.take 3) then some (0, text.drop 3)
  else
    match text with
    | 'Z' :: rest => some (0, rest)
    | 'z' :: rest => some (0, rest)
    | text => signedOffset? looseColon text

def relaxed? (text : String) : Option Timestamp := do
  let (year, rest) ← year? (skipBlank text.toList)
  let rest ← spacedMark? '-' rest
  let (month, rest) ← field? rest
  let rest ← spacedMark? '-' rest
  let (day, rest) ← field? rest
  let rest ← separator? rest
  let (hour, rest) ← field? rest
  let rest ← spacedMark? ':' rest
  let (minute, rest) ← field? rest
  let rest ← spacedMark? ':' rest
  let (second, rest) ← field? rest
  let (nanosecond, rest) ← fraction? rest
  let (offset, rest) ← zone? (skipBlank rest)
  if rest.all isBlank then inUtc? ⟨year, month, day, hour, minute, second, nanosecond⟩ offset
  else none

end Settlement.Time
