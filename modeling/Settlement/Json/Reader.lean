import Settlement.Json
import Settlement.Text.Decimal

/-!
Reading JSON texts. Every step takes at least one character, so the length of the
text bounds the depth of the recursion and the whole text can be read with it.
-/

namespace Settlement.Json

open Text

def skipBlanks (text : List Char) : List Char := text.dropWhile JsonString.isBlank

def literal? (word : List Char) (value : Json) (text : List Char) : Option (Json × List Char) :=
  if word.isPrefixOf text then some (value, text.drop word.length) else none

def someDigits? (text : List Char) : Option (List Char × List Char) :=
  match text.span Decimal.isDigit with
  | ([], _) => none
  | (digits, rest) => some (digits, rest)

def fraction? : List Char → Option (List Char × List Char)
  | '.' :: text => someDigits? text
  | text => some ([], text)

def signedDigits? : List Char → Option (Int × List Char)
  | '-' :: text => (someDigits? text).map fun (digits, rest) => (-(Decimal.value digits : Int), rest)
  | '+' :: text => (someDigits? text).map fun (digits, rest) => ((Decimal.value digits : Int), rest)
  | text => (someDigits? text).map fun (digits, rest) => ((Decimal.value digits : Int), rest)

def exponent? : List Char → Option (Option Int × List Char)
  | 'e' :: text => (signedDigits? text).map fun (power, rest) => (some power, rest)
  | 'E' :: text => (signedDigits? text).map fun (power, rest) => (some power, rest)
  | text => some (none, text)

def whole? (text : List Char) : Option (List Char × List Char) := do
  let (digits, rest) ← someDigits? text
  match digits with
  | '0' :: _ :: _ => none
  | digits => some (digits, rest)

/-- A literal of digits alone is an integer, apart from minus zero. -/
def number? (negative : Bool) (text : List Char) : Option (Json × List Char) := do
  let (digits, rest) ← whole? text
  let (places, rest) ← fraction? rest
  let (power, rest) ← exponent? rest
  let magnitude : Int := Decimal.value (digits ++ places)
  let coefficient := if negative then -magnitude else magnitude
  match places, power with
  | [], none =>
      if negative && magnitude = 0 then some (.decimal 0 0, rest)
      else some (.integer coefficient, rest)
  | _, _ => some (.decimal coefficient (power.getD 0 - places.length), rest)

mutual

def value? : Nat → List Char → Option (Json × List Char)
  | 0, _ => none
  | fuel + 1, text =>
    match skipBlanks text with
    | '"' :: rest =>
        (JsonString.body? rest).map fun (characters, rest) =>
          (.string (String.ofList characters), rest)
    | '[' :: rest =>
        match skipBlanks rest with
        | ']' :: rest => some (.array [], rest)
        | rest => (items? fuel rest).map fun (items, rest) => (.array items, rest)
    | '\x7b' :: rest =>
        match skipBlanks rest with
        | '\x7d' :: rest => some (.object [], rest)
        | rest => (members? fuel rest).map fun (members, rest) => (.object members, rest)
    | '-' :: rest => number? true rest
    | 'n' :: rest => literal? "ull".toList .null rest
    | 't' :: rest => literal? "rue".toList (.boolean true) rest
    | 'f' :: rest => literal? "alse".toList (.boolean false) rest
    | rest => number? false rest

def items? : Nat → List Char → Option (List Json × List Char)
  | 0, _ => none
  | fuel + 1, text => do
    let (item, rest) ← value? fuel text
    match skipBlanks rest with
    | ',' :: rest =>
        let (items, rest) ← items? fuel rest
        return (item :: items, rest)
    | ']' :: rest => return ([item], rest)
    | _ => none

def members? : Nat → List Char → Option (List (String × Json) × List Char)
  | 0, _ => none
  | fuel + 1, text =>
    match skipBlanks text with
    | '"' :: rest => do
        let (name, rest) ← JsonString.body? rest
        match skipBlanks rest with
        | ':' :: rest =>
            let (value, rest) ← value? fuel rest
            let entry := (String.ofList name, value)
            match skipBlanks rest with
            | ',' :: rest =>
                let (members, rest) ← members? fuel rest
                return (entry :: members, rest)
            | '\x7d' :: rest => return ([entry], rest)
            | _ => none
        | _ => none
    | _ => none

end

def read? (text : String) : Option Json :=
  let characters := text.toList
  match value? (characters.length + 1) characters with
  | some (value, rest) => if rest.all JsonString.isBlank then some value else none
  | none => none

end Settlement.Json
