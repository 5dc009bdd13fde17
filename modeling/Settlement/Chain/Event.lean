import Settlement.Text.JsonString

/-!
The events of one block and the six views on them. A view keeps the order of the
events; a contract event belongs to a view by its type, its first contract address
and, for a contract action, its first action.
-/

namespace Settlement.Chain

structure Event where
  type : String
  txHash : String
  height : Nat
  attributes : List (String × String)
  deriving DecidableEq

structure Batch where
  height : Nat
  events : List Event
  deriving DecidableEq

structure Mint where
  txHash : String
  height : Nat
  memberId : String
  amount : String
  denom : String
  withdrawDenom : String
  withdrawAddress : String
  deriving DecidableEq

structure Burn where
  txHash : String
  height : Nat
  memberId : String
  amount : String
  denom : String
  deriving DecidableEq

structure Redemption where
  txHash : String
  height : Nat
  memberId : String
  amount : String
  denom : String
  deriving DecidableEq

structure Transfer where
  txHash : String
  height : Nat
  sender : String
  recipient : String
  amount : String
  denom : String
  deriving DecidableEq

structure Migration where
  txHash : String
  height : Nat
  codeId : String
  deriving DecidableEq

/-- A coin transfer outside the contract. -/
structure MarkerTransfer where
  txHash : String
  height : Nat
  fromAddress : String
  toAddress : String
  amount : String
  denom : String
  deriving DecidableEq

namespace Event

def contractType : String := "wasm"

def migrationType : String := "migrate"

def markerTransferType : String := "provenance.marker.v1.EventMarkerTransfer"

def streamedTypes : List String := [contractType, markerTransferType, migrationType]

variable (event : Event)

/-- The first value of a key; a missing key counts as empty. -/
def valueOf (key : String) : String :=
  ((event.attributes.find? fun entry => entry.1 = key).map Prod.snd).getD ""

/-- A value that starts with a quote and is one JSON string stands for the text it denotes. -/
def unquoted (value : String) : String :=
  if value.toList.head? = some '"' then (Text.JsonString.decode? value).getD value else value

def isOf (contract type : String) : Bool :=
  event.type = type && event.valueOf "_contract_address" = contract

def isAction (contract action : String) : Bool :=
  event.isOf contract contractType && event.valueOf "action" = action

def mint : Mint where
  txHash := event.txHash
  height := event.height
  memberId := event.valueOf "member_id"
  amount := event.valueOf "amount"
  denom := event.valueOf "denom"
  withdrawDenom := event.valueOf "withdraw_denom"
  withdrawAddress := event.valueOf "withdraw_address"

def burn : Burn where
  txHash := event.txHash
  height := event.height
  memberId := event.valueOf "member_id"
  amount := event.valueOf "amount"
  denom := event.valueOf "denom"

def redemption : Redemption where
  txHash := event.txHash
  height := event.height
  memberId := event.valueOf "member_id"
  amount := event.valueOf "amount"
  denom := event.valueOf "denom"

def transfer : Transfer where
  txHash := event.txHash
  height := event.height
  sender := event.valueOf "sender"
  recipient := event.valueOf "recipient"
  amount := event.valueOf "amount"
  denom := event.valueOf "denom"

def migration : Migration where
  txHash := event.txHash
  height := event.height
  codeId := event.valueOf "code_id"

def markerTransfer : MarkerTransfer where
  txHash := event.txHash
  height := event.height
  fromAddress := unquoted (event.valueOf "from_address")
  toAddress := unquoted (event.valueOf "to_address")
  amount := unquoted (event.valueOf "amount")
  denom := unquoted (event.valueOf "denom")

end Event

namespace Batch

variable (batch : Batch) (contract : String)

def actions (action : String) : List Event :=
  batch.events.filter fun event => event.isAction contract action

def mints : List Mint := (batch.actions contract "mint").map Event.mint

def burns : List Burn := (batch.actions contract "burn").map Event.burn

def redemptions : List Redemption := (batch.actions contract "redeem").map Event.redemption

def transfers : List Transfer := (batch.actions contract "transfer").map Event.transfer

def migrations : List Migration :=
  (batch.events.filter fun event => event.isOf contract Event.migrationType).map Event.migration

def markerTransfers : List MarkerTransfer :=
  (batch.events.filter fun event => event.type = Event.markerTransferType).map Event.markerTransfer

end Batch

end Settlement.Chain
