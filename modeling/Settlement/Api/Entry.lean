import Settlement.Json
import Settlement.Store.Table

/-!
What the read interface shows: an entry per movement, and how far the stream has come.
An entry is known by the bare hash if no other movement shares it, and by the ledger's
key otherwise.
-/

namespace Settlement.Api

def entryId (listed : Store.Listed) : String :=
  match listed.movement.legacyHash, listed.movementsInTx with
  | some txHash, 1 => txHash
  | _, _ => listed.movement.key

structure Entry where
  txId : String
  fromAddress : String
  fromBank : Option Uuid
  toAddress : String
  toBank : Option Uuid
  height : Nat
  time : Timestamp
  amount : String
  denom : String
  kind : MovementKind
  deriving DecidableEq

def Entry.ofListed (listed : Store.Listed) : Entry where
  txId := entryId listed
  fromAddress := listed.movement.fromAddress
  fromBank := listed.movement.fromBank
  toAddress := listed.movement.toAddress
  toBank := listed.movement.toBank
  height := Height.shown listed.movement.height
  time := listed.movement.time
  amount := listed.movement.amount
  denom := listed.movement.denom
  kind := listed.movement.kind

def optionalJson {α : Type} (json : α → Json) : Option α → Json
  | some value => json value
  | none => .null

def idJson (id : Uuid) : Json := .string id.text

def Entry.json (entry : Entry) : Json :=
  .object [("txId", .string entry.txId), ("fromAddress", .string entry.fromAddress),
    ("fromBankUuid", optionalJson idJson entry.fromBank), ("toAddress", .string entry.toAddress),
    ("toBankUuid", optionalJson idJson entry.toBank), ("blockHeight", .integer entry.height),
    ("blockTime", .string entry.time.shown), ("amount", .string entry.amount),
    ("denom", .string entry.denom), ("type", .string (Named.text entry.kind))]

def listJson (listed : List Store.Listed) : Json :=
  .object [("transactions", .array (listed.map fun item => (Entry.ofListed item).json))]

def statusJson (stream : Uuid) (height : Option Nat) : Json :=
  .object [("streamId", idJson stream),
    ("lastBlockHeight", optionalJson (fun height => .integer (Int.ofNat height)) height)]

end Settlement.Api
