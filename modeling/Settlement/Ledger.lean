import Settlement.Directory
import Settlement.Failure

/-!
The ledger of coin that moves between addresses and bank accounts. The admitted mints,
burns and transfers of a block are numbered in this order from zero, and the number is
part of an entry's key, so a block recorded again finds its rows already there.
-/

namespace Settlement.Ledger

structure Settings where
  manager : String
  bankDenom : String

/-- A movement with a linked address on at least one side. -/
structure Admitted where
  txHash : String
  height : Nat
  fromAddress : String
  fromBank : Option Uuid
  toAddress : String
  toBank : Option Uuid
  amount : String
  denom : String
  kind : MovementKind
  deriving DecidableEq

abbrev Resolve := String → Activity Store.Fault (Option Uuid)

section Admission
variable (settings : Settings) (resolve : Resolve)

def admitMint (mint : Chain.Mint) : Activity Store.Fault (Option Admitted) := do
  if mint.withdrawAddress.isEmpty || mint.memberId.isEmpty then return none
  let bank ← resolve mint.withdrawAddress
  return bank.map fun account =>
    ⟨mint.txHash, mint.height, mint.memberId, none, mint.withdrawAddress, some account,
      mint.amount, mint.withdrawDenom, .mint⟩

def admitBurn (transfer : Chain.Transfer) : Activity Store.Fault (Option Admitted) := do
  if transfer.sender.isEmpty || transfer.recipient.isEmpty then return none
  if transfer.recipient ≠ settings.manager then return none
  let bank ← resolve transfer.sender
  return bank.map fun account =>
    ⟨transfer.txHash, transfer.height, transfer.sender, some account, transfer.recipient, none,
      transfer.amount, transfer.denom, .burn⟩

def admitTransfer (transfer : Chain.MarkerTransfer) : Activity Store.Fault (Option Admitted) := do
  if transfer.fromAddress.isEmpty || transfer.toAddress.isEmpty ||
      transfer.denom ≠ settings.bankDenom then return none
  let fromBank ← resolve transfer.fromAddress
  let toBank ← resolve transfer.toAddress
  if fromBank.isNone && toBank.isNone then return none
  return some ⟨transfer.txHash, transfer.height, transfer.fromAddress, fromBank,
    transfer.toAddress, toBank, transfer.amount, transfer.denom, .transfer⟩

end Admission

def admitAll {α : Type} (admission : α → Activity Store.Fault (Option Admitted)) :
    List α → Activity Store.Fault (List Admitted)
  | [] => pure []
  | item :: rest => do
      let first ← admission item
      let others ← admitAll admission rest
      return first.toList ++ others

def admitBlock (settings : Settings) (resolve : Resolve) (mints : List Chain.Mint)
    (burns : List Chain.Transfer) (transfers : List Chain.MarkerTransfer) :
    Activity Store.Fault (List Admitted) := do
  let minted ← admitAll (admitMint resolve) mints
  let burned ← admitAll (admitBurn settings resolve) burns
  let moved ← admitAll (admitTransfer settings resolve) transfers
  return minted ++ burned ++ moved

def entry (time : Timestamp) (index : Nat) (admitted : Admitted) : Store.Entry where
  key := admitted.txHash ++ "-" ++ toString index
  txHash := admitted.txHash
  fromAddress := admitted.fromAddress
  fromBank := admitted.fromBank
  toAddress := admitted.toAddress
  toBank := admitted.toBank
  height := admitted.height
  time
  amount := admitted.amount
  denom := admitted.denom
  kind := admitted.kind

def entriesFrom (time : Timestamp) (index : Nat) : List Admitted → List Store.Entry
  | [] => []
  | admitted :: rest => entry time index admitted :: entriesFrom time (index + 1) rest

def ofStorage (fault : Store.Fault) : Failure := .ofCause (.storage fault)

def fetchBlock (height : Nat) : Activity Failure Chain.BlockHeader :=
  .ask (.block height) fun reply =>
    match reply with
    | .ok header => pure header
    | .error failure =>
        .fail ((Failure.ofCause (.chain failure)).within ("failed to fetch block " ++ toString height))

/-- Writes all entries of a block or none, and tells how many were new. The block's time is
asked for only if something was admitted. -/
def recordBlock (settings : Settings) (resolve : Resolve) (height : Nat)
    (mints : List Chain.Mint) (burns : List Chain.Transfer)
    (transfers : List Chain.MarkerTransfer) : Activity Failure Nat := do
  let admitted ← (admitBlock settings resolve mints burns transfers).mapFailure ofStorage
  if admitted.isEmpty then return 0
  let header ← fetchBlock height
  let now ← Activity.request .times
  let written ← Activity.storage ofStorage (.append (entriesFrom header.time 0 admitted) now)
  match written with
  | some count => return count
  | none => .fail (.ofCause .heightRange)

end Settlement.Ledger
