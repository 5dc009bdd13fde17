import Settlement.Time.Grammar

/-!
Times as a text column may hold them: strict RFC 3339, or a date and a time of day,
with seconds or without, and with a zone or without. A text without a zone is UTC, and
so is one whose zone leads nowhere.
-/

namespace Settlement.Time

open Text

def strictZone? : List Char → Option (Int × List Char)
  | 'Z' :: rest => some (0, rest)
  | 'z' :: rest => some (0, rest)
  | text => signedOffset? (mark? ':') text

def strict? (text : List Char) : Option Timestamp := do
  let (year, rest) ← exactly? 4 text
  let (month, rest) ← mark? '-' rest >>= exactly? 2
  let (day, rest) ← mark? '-' rest >>= exactly? 2
  let (hour, rest) ← separator? rest >>= exactly? 2
  let (minute, rest) ← mark? ':' rest >>= exactly? 2
  let (second, rest) ← mark? ':' rest >>= exactly? 2
  let (nanosecond, rest) ← fraction? rest
  let (offset, rest) ← strictZone? rest
  if rest.isEmpty then inUtc? ⟨year, month, day, hour, minute, second, nanosecond⟩ offset
  else none

/-- A missing second is zero, and then there is no fraction either. -/
def seconds? (text : List Char) : Option ((Nat × Nat) × List Char) :=
  match mark? ':' text with
  | none => some ((0, 0), text)
  | some rest => do
      let (second, rest) ← number? 2 (skipBlank rest)
      let (nanosecond, rest) ← fraction? rest
      return ((second, nanosecond), rest)

def columnZone? (text : List Char) : Option Int :=
  if text = [] ∨ text = ['Z'] then some 0
  else do
    let (offset, rest) ← signedOffset? looseColon (skipBlank text)
    if rest.isEmpty then some offset else none

/-- A zone a day or more from UTC does not count, nor does one that leaves the calendar. -/
def inUtcOrAsIs? (moment : Moment) (offset : Int) : Option Timestamp :=
  (inUtc? moment offset).orElse fun _ => Timestamp.ofMoment? moment

def loose? (text : List Char) : Option Timestamp := do
  let (year, rest) ← year? (skipBlank text)
  let (month, rest) ← mark? '-' rest >>= fun rest => number? 2 (skipBlank rest)
  let (day, rest) ← mark? '-' rest >>= fun rest => number? 2 (skipBlank rest)
  let (hour, rest) ← number? 2 (skipBlank ((mark? 'T' rest).getD rest))
  let (minute, rest) ← mark? ':' rest >>= fun rest => number? 2 (skipBlank rest)
  let ((second, nanosecond), rest) ← seconds? rest
  let offset ← columnZone? rest
  inUtcOrAsIs? ⟨year, month, day, hour, minute, second, nanosecond⟩ offset

def ofColumn? (text : String) : Option Timestamp :=
  (strict? text.toList).orElse fun _ => loose? text.toList

end Settlement.Time
