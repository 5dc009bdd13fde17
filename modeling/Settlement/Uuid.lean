import Settlement.Text.Hex

/-!
Universally unique identifiers: thirty-two hex digits. Four written forms are read
and one is written, in lower case with hyphens.
-/

namespace Settlement

structure Uuid where
  digits : List (Fin 16)
  length_eq : digits.length = 32
  deriving DecidableEq

namespace Uuid

def zero : Uuid := ⟨List.replicate 32 0, rfl⟩

def ofDigits? (digits : List (Fin 16)) : Option Uuid :=
  if length_eq : digits.length = 32 then some ⟨digits, length_eq⟩ else none

def digit (n : Nat) : Fin 16 := Fin.ofNat 16 n

def digit? (c : Char) : Option (Fin 16) := (Text.Hex.digit? c).map digit

def ofHex? (text : List Char) : Option Uuid := text.mapM digit? >>= ofDigits?

def ofHyphenated? (text : List Char) : Option Uuid :=
  if [8, 13, 18, 23].all fun position => text[position]? = some '-' then
    ofHex? (text.take 8 ++ (text.drop 9).take 4 ++ (text.drop 14).take 4 ++
      (text.drop 19).take 4 ++ text.drop 24)
  else none

def resourceMark : List Char := "urn:uuid:".toList

/-- Plain digits, or hyphenated, and then also in braces or as a resource name. -/
def ofText? (text : String) : Option Uuid :=
  let characters := text.toList
  if characters.length = 32 then ofHex? characters
  else if characters.length = 36 then ofHyphenated? characters
  else if characters.length = 38 ∧ characters.head? = some '{' ∧ characters.getLast? = some '}' then
    ofHyphenated? (characters.drop 1).dropLast
  else if (characters.take 9).map Char.toLower = resourceMark then
    ofHyphenated? (characters.drop 9)
  else none

def digitText (digit : Fin 16) : Char :=
  if digit.val < 10 then Char.ofNat ('0'.toNat + digit.val)
  else Char.ofNat ('a'.toNat + digit.val - 10)

def text (id : Uuid) : String :=
  let characters := id.digits.map digitText
  String.ofList <|
    characters.take 8 ++ '-' :: (characters.drop 8).take 4 ++ '-' :: (characters.drop 12).take 4 ++
      '-' :: (characters.drop 16).take 4 ++ '-' :: characters.drop 20

end Uuid

end Settlement
