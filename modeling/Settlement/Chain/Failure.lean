import Settlement.Text.JsonString

/-!
Why a question to the chain got no usable answer. A node's own error keeps its code,
message and data; only such an error can say that the asked item does not exist.
-/

namespace Settlement.Chain

inductive Failure where
  | transport
  | payload
  | rpc (code : Int) (message data : String)
  | malformed (reason : String)
  deriving DecidableEq

namespace Failure

/-- Data that is a JSON string counts as the text it denotes, any other as its own JSON text. -/
def dataText : Option String → String
  | none => ""
  | some raw =>
      (Text.JsonString.decode? raw).getD
        (String.ofList (Text.JsonString.trim raw.toList))

def ofError (code : Int) (message : String) (data : Option String) : Failure :=
  .rpc code message (dataText data)

def occurs (word : List Char) : List Char → Bool
  | [] => word.isEmpty
  | c :: rest => word.isPrefixOf (c :: rest) || occurs word rest

def saysNotFound (text : String) : Bool := occurs "not found".toList text.toList

def isNotFound : Failure → Bool
  | .rpc _ message data => saysNotFound data || saysNotFound message
  | _ => false

def message? : Failure → Option String
  | .rpc code message data => some ("RPC error " ++ toString code ++ ": " ++ message ++ " " ++ data)
  | .malformed reason => some ("Malformed RPC payload: " ++ reason)
  | .transport | .payload => none

end Failure

end Settlement.Chain
