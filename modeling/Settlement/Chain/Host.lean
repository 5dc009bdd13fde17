import Settlement.Domain.Name
import Settlement.Text.Decimal
import Settlement.Text.Percent

/-!
The host of a web address: an address of eight places in brackets, one of up to four
numbers, or a domain name. A name whose last label is a number is taken for numbers and
has to be right as such.
-/

namespace Settlement.Chain.Host

open Text

def isHexDigit (c : Char) : Bool := (Hex.digit? c).isSome

def isOctalDigit (c : Char) : Bool := '0' ≤ c && c ≤ '7'

def valueIn (base : Nat) (digits : List Char) : Nat :=
  digits.foldl (fun number c => base * number + (Hex.digit? c).getD 0) 0

/-- A leading zero makes a number octal, and one with an x hexadecimal. -/
def number? (label : List Char) : Option Nat :=
  let read (base : Nat) (isDigit : Char → Bool) (digits : List Char) : Option Nat :=
    if digits.all isDigit then some (valueIn base digits) else none
  match label with
  | [] => none
  | '0' :: 'x' :: digits | '0' :: 'X' :: digits => read 16 isHexDigit digits
  | '0' :: digits => read 8 isOctalDigit digits
  | digits => read 10 Decimal.isDigit digits

def withoutRoot (labels : List (List Char)) : List (List Char) :=
  if labels.getLast? = some [] then labels.dropLast else labels

def isNumeric (label : List Char) : Bool :=
  (!label.isEmpty && label.all Decimal.isDigit) || (number? label).isSome

/-- Four octets, or fewer numbers of which the last fills the places that are missing. -/
def areOctets (labels : List (List Char)) : Bool :=
  match (labels.mapM number?).map List.reverse with
  | some (last :: others) =>
      labels.length ≤ 4 && others.all (· < 256) && last < Nat.pow 256 (5 - labels.length)
  | _ => false

def isName (text : List Char) : Bool :=
  match (Percent.decode? text).bind fun name => Domain.labels? name.toList with
  | none => false
  | some labels =>
      labels ≠ [[]] &&
        (!(withoutRoot labels).getLast?.any isNumeric || areOctets (withoutRoot labels))

def isOctet (text : List Char) : Bool :=
  (Decimal.digits? text).any (· < 256) && (text.length = 1 || text.head? ≠ some '0')

def areFourOctets (text : List Char) : Bool :=
  (text.splitOn '.').length = 4 && (text.splitOn '.').all isOctet

def isPiece (text : List Char) : Bool :=
  !text.isEmpty && text.length ≤ 4 && text.all isHexDigit

/-- How many of the eight places a text with single colons fills. Four octets at its end fill
two of them. -/
def places? (text : List Char) : Option Nat :=
  if text.isEmpty then some 0
  else
    let pieces := text.splitOn ':'
    if pieces.all isPiece then some pieces.length
    else if pieces.dropLast.all isPiece && pieces.getLast?.any areFourOctets then
      some (pieces.length + 1)
    else none

def aroundGap? : List Char → Option (List Char × List Char)
  | ':' :: ':' :: rest => some ([], rest)
  | c :: rest => (aroundGap? rest).map fun (before, behind) => (c :: before, behind)
  | [] => none

def fillsPlaces (text : List Char) : Bool :=
  match aroundGap? text with
  | none => places? text = some 8
  | some (before, behind) =>
      !before.contains '.' &&
        match places? before, places? behind with
        | some before, some behind => before + behind ≤ 7
        | _, _ => false

def isHost : List Char → Bool
  | '[' :: text => text.getLast? = some ']' && fillsPlaces text.dropLast
  | text => isName text

end Settlement.Chain.Host
