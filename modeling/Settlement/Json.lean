import Settlement.Text.JsonString

/-!
JSON values. A number keeps the distinction its text makes: `integer` stands for a
literal of digits alone, `decimal` for one with a fraction or an exponent, written as
a coefficient and a power of ten.
-/

namespace Settlement

inductive Json where
  | null
  | boolean (value : Bool)
  | integer (value : Int)
  | decimal (coefficient : Int) (exponent : Int)
  | string (text : String)
  | array (items : List Json)
  | object (members : List (String × Json))

namespace Json

/-- The last member of a name counts, as a later one replaces an earlier one. -/
def member? (name : String) : Json → Option Json
  | .object members => (members.reverse.find? fun entry => entry.1 = name).map Prod.snd
  | _ => none

def string? : Json → Option String
  | .string text => some text
  | _ => none

def integer? : Json → Option Int
  | .integer value => some value
  | _ => none

def natural? : Json → Option Nat
  | .integer value => value.toNat?
  | _ => none

def array? : Json → Option (List Json)
  | .array items => some items
  | _ => none

def isNull : Json → Bool
  | .null => true
  | _ => false

def path? : List String → Json → Option Json
  | [], json => some json
  | name :: names, json => json.member? name >>= path? names

mutual

def render : Json → String
  | .null => "null"
  | .boolean true => "true"
  | .boolean false => "false"
  | .integer value => toString value
  | .decimal coefficient exponent => toString coefficient ++ "e" ++ toString exponent
  | .string text => Text.JsonString.encode text
  | .array items => "[" ++ ",".intercalate (renderItems items) ++ "]"
  | .object members => "\x7b" ++ ",".intercalate (renderMembers members) ++ "\x7d"

def renderItems : List Json → List String
  | [] => []
  | item :: rest => render item :: renderItems rest

def renderMembers : List (String × Json) → List String
  | [] => []
  | (name, value) :: rest =>
      (Text.JsonString.encode name ++ ":" ++ render value) :: renderMembers rest

end

end Json

end Settlement
