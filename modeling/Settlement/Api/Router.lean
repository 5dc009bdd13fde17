import Settlement.Activity
import Settlement.Api.Entry
import Settlement.Api.Form
import Settlement.Api.Page
import Settlement.Api.Request
import Settlement.Time.Relaxed

/-!
The read interface. Two addresses answer to GET and HEAD; every address answers to an
OPTIONS request, and every answer may be read from any origin. A query that repeats a
known name or gives it a value of the wrong form is refused.
-/

namespace Settlement.Api

structure Query where
  first : Option Timestamp
  last : Option Timestamp
  offset : Option Int
  limit : Option Int

namespace Query

def empty : Query := ⟨none, none, none, none⟩

def with? (query : Query) : String × String → Option Query
  | ("from", value) =>
      if query.first.isSome then none
      else (Time.relaxed? value).map fun time => { query with first := some time }
  | ("to", value) =>
      if query.last.isSome then none
      else (Time.relaxed? value).map fun time => { query with last := some time }
  | ("offset", value) =>
      if query.offset.isSome then none
      else (Text.Decimal.signed? value).map fun number => { query with offset := some number }
  | ("limit", value) =>
      if query.limit.isSome then none
      else (Text.Decimal.signed? value).map fun number => { query with limit := some number }
  | _ => some query

def ofText? (text : List Char) : Option Query := (Form.pairs text).foldlM with? empty

def page (query : Query) : Page := .clamped query.offset query.limit

end Query

structure Response where
  status : Nat
  body : Option Json
  text : String

namespace Response

def bare (status : Nat) : Response := ⟨status, none, ""⟩

def ok (json : Json) : Response := ⟨200, some json, ""⟩

def internalError : Response := ⟨500, none, "internal error"⟩

def withoutBody (response : Response) : Response := ⟨response.status, none, ""⟩

end Response

def allowedOrigin : String := "*"

def listMovements (query : Query) : Activity Store.Fault Json := do
  let page := query.page
  let listed ← Activity.storage id (.list query.first query.last page.offset page.limit)
  return listJson listed

def streamStatus (stream : Uuid) : Activity Store.Fault Json := do
  let cursor ← Activity.storage id (.cursor stream)
  return statusJson stream (cursor.map fun cursor => Height.shown cursor.height)

def answer (activity : Activity Store.Fault Json) : Activity Store.Fault Response :=
  activity.attempt fun
    | .ok json => pure (.ok json)
    | .error _ => pure .internalError

def handler? (stream : Uuid) (path query : List Char) : Option (Activity Store.Fault Response) :=
  if path = "/api/v1/coin-movement".toList then
    some <|
      match Query.ofText? query with
      | some query => answer (listMovements query)
      | none => pure (.bare 400)
  else if path = "/api/v1/status".toList then some (answer (streamStatus stream))
  else none

def route (stream : Uuid) (request : Request) : Activity Store.Fault Response :=
  if request.method = "OPTIONS" then pure (.bare 200)
  else
    match handler? stream request.target.path request.target.query with
    | none => pure (.bare 404)
    | some respond =>
      if request.method = "GET" then respond
      else if request.method = "HEAD" then do return (← respond).withoutBody
      else pure (.bare 405)

end Settlement.Api
