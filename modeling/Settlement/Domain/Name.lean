import Settlement.Domain.Direction
import Settlement.Domain.Joining
import Settlement.Domain.Punycode
import Settlement.Domain.Reading
import Settlement.Text.Composition

/-!
Domain names in any script. A name is read, composed and cut into its labels at the dots.
A label that says so is written in ASCII and stands for another one, which has to be in
the form that reading leads to. No label is empty of meaning: none starts with a mark,
none has a joiner without an effect, and all of them keep their directions.
-/

namespace Settlement.Domain

open Text

def Reading.text? (c : Char) : Reading → Option (List Char)
  | .itself | .alike => some [c]
  | .nothing => some []
  | .replaced text => some text
  | .refused => none

def read? (name : List Char) : Option (List Char) := do
  let parts ← name.mapM fun c => (Reading.ofChar c).text? c
  return Composition.composed parts.flatten

def isForbidden (c : Char) : Bool :=
  c.toNat ≤ 0x20 || c = '\x7F' || "%#/:<>?@[\\]^|".toList.contains c

/-- What a label in ASCII starts with if it stands for another. -/
def encodedMark : List Char := "xn--".toList

/-- Nothing changes it in reading, and it could not be written without encoding. -/
def isDecoded (label : List Char) : Bool :=
  label.all (fun c => Reading.ofChar c = .itself) && Composition.composed label = label &&
    label.any (fun c => 0x80 ≤ c.toNat) && !label.contains '.' &&
    !encodedMark.isPrefixOf label

def longestEncoded : Nat := 2000

def longestDecoded : Nat := 1000

def isEncodable (label : List Char) : Bool :=
  label.length ≤ longestDecoded || label.all fun c => c.toNat < 0x80

def decoded? (label : List Char) : Option (List Char) :=
  if encodedMark.isPrefixOf label then
    let encoded := label.drop encodedMark.length
    if encoded.length ≤ longestEncoded then (Punycode.decode? encoded).filter isDecoded else none
  else some label

def isLabel (label : List Char) : Bool :=
  !label.any isForbidden && !label.head?.any isMark && joinersFit [] label && isEncodable label

def labels? (name : List Char) : Option (List (List Char)) := do
  let text ← read? name
  let labels := text.splitOn '.'
  let decoded ← labels.mapM decoded?
  if decoded.all isLabel && keepDirections decoded then return labels else none

end Settlement.Domain
