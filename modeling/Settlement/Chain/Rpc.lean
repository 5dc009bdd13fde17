import Settlement.Chain.Failure
import Settlement.Json.Reader

/-!
Calls to the node and its answers, as JSON-RPC has them. An answer belongs to a call
by its id; anything else that may come back is no answer.
-/

namespace Settlement.Chain.Rpc

structure Call where
  method : String
  params : List (String × Json)

inductive Answer where
  | result (payload : Json)
  | error (code : Int) (message : String) (data : Option String)
  | unavailable

def Call.json (id : Nat) (call : Call) : Json :=
  .object [("jsonrpc", .string "2.0"), ("id", .integer id), ("method", .string call.method),
    ("params", .object call.params)]

namespace Answer

def ofError? (json : Json) : Option Answer := do
  let code ← json.member? "code" >>= Json.integer?
  let message ← json.member? "message" >>= Json.string?
  let data := (json.member? "data").filter fun data => !data.isNull
  if -0x8000_0000 ≤ code ∧ code < 0x8000_0000 then return .error code message (data.map Json.render)
  else none

def ofJson? (id : Nat) (json : Json) : Option Answer := do
  let echoed ← json.member? "id" >>= Json.natural?
  if echoed = id then
    match json.member? "result", json.member? "error" with
    | some payload, none => return .result payload
    | none, some fault => ofError? fault
    | _, _ => none
  else none

def ofResponse (id status : Nat) (body : String) : Answer :=
  if 200 ≤ status ∧ status < 300 then
    (Json.read? body >>= ofJson? id).getD .unavailable
  else .unavailable

def payload : Answer → Except Failure Json
  | .result payload => .ok payload
  | .error code message data => .error (.ofError code message data)
  | .unavailable => .error .transport

end Answer

end Settlement.Chain.Rpc
