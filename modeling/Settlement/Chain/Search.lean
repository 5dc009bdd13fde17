import Settlement.Chain.Answer
import Settlement.Chain.Event
import Settlement.Chain.Rpc

/-!
The search for the events of one height. The node hands out the transactions in pages
and says with each page how many there are; the search asks for page after page until
it has seen that many or a page is empty.
-/

namespace Settlement.Chain

structure FoundEvent where
  type : String
  attributes : List (String × String)
  deriving DecidableEq

structure FoundTx where
  hash : String
  height : Nat
  events : List FoundEvent
  deriving DecidableEq

structure Page where
  transactions : List FoundTx
  total : Nat
  deriving DecidableEq

def distinctFields? (names : List String) (json : Json) : Option (List (Option Json)) :=
  match json with
  | .object members =>
      if names.all fun name => members.countP (fun entry => entry.1 = name) ≤ 1 then
        fields? names json
      else none
  | json => fields? names json

def listOf? (read : Json → Option α) (json : Json) : Option (List α) :=
  json.array? >>= List.mapM read

def nullable? (read : Json → Option α) (json : Json) : Option (Option α) :=
  if json.isNull then some none else (read json).map some

def attribute? (json : Json) : Option (String × String) := do
  match ← distinctFields? ["key", "value"] json with
  | [some key, value] =>
      return (← key.string?, (← optional none (nullable? Json.string?) value).getD "")
  | _ => none

def FoundEvent.ofJson? (json : Json) : Option FoundEvent := do
  match ← distinctFields? ["type", "attributes"] json with
  | [some type, attributes] =>
      return ⟨← type.string?, ← optional [] (listOf? attribute?) attributes⟩
  | _ => none

def foundEvents? (json : Json) : Option (List FoundEvent) := do
  match ← distinctFields? ["events"] json with
  | [events] => optional [] (listOf? FoundEvent.ofJson?) events
  | _ => none

def FoundTx.ofJson? (json : Json) : Option FoundTx := do
  match ← distinctFields? ["hash", "height", "tx_result"] json with
  | [some hash, some height, some result] =>
      return ⟨← hash.string?, ← height? height, ← foundEvents? result⟩
  | _ => none

def Page.ofJson? (json : Json) : Option Page := do
  match ← distinctFields? ["txs", "total_count"] json with
  | [some transactions, some total] =>
      return ⟨← listOf? FoundTx.ofJson? transactions, ← height? total⟩
  | _ => none

def FoundTx.eventsOf (types : List String) (tx : FoundTx) : List Event :=
  (tx.events.filter fun event => types.contains event.type).map fun event =>
    ⟨event.type, tx.hash, tx.height, event.attributes⟩

structure Search where
  height : Nat
  types : List String
  page : Nat
  seen : Nat
  events : List Event
  deriving DecidableEq

namespace Search

def pageSize : Nat := 100

def start (types : List String) (height : Nat) : Search := ⟨height, types, 1, 0, []⟩

def call (search : Search) : Rpc.Call :=
  ⟨"tx_search", [("query", .string ("tx.height=" ++ toString search.height)),
    ("prove", .boolean false), ("page", .string (toString search.page)),
    ("per_page", .string (toString pageSize)), ("order_by", .string "asc")]⟩

inductive Next where
  | more (search : Search)
  | done (result : Except Failure Batch)

/-- A payload that is no page counts as no answer. -/
def pageOf (answer : Rpc.Answer) : Except Failure Page :=
  answer.payload >>= fun payload =>
    match Page.ofJson? payload with
    | some page => .ok page
    | none => .error .transport

/-- An empty page ends the search whatever the total is. -/
def take (search : Search) (page : Page) : Next :=
  let seen := search.seen + page.transactions.length
  let events := search.events ++ page.transactions.flatMap (FoundTx.eventsOf search.types)
  if page.transactions.isEmpty || page.total ≤ seen then .done (.ok ⟨search.height, events⟩)
  else .more { search with page := search.page + 1, seen, events }

def next (search : Search) (answer : Rpc.Answer) : Next :=
  match pageOf answer with
  | .ok page => search.take page
  | .error failure => .done (.error failure)

def run (search : Search) : List Rpc.Answer → Next
  | [] => .more search
  | answer :: rest =>
    match search.next answer with
    | .more search => search.run rest
    | .done result => .done result

def calls (search : Search) : List Rpc.Answer → List Rpc.Call
  | [] => [search.call]
  | answer :: rest =>
    match search.next answer with
    | .more next => search.call :: next.calls rest
    | .done _ => [search.call]

end Search

end Settlement.Chain
