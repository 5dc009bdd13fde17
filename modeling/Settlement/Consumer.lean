import Settlement.Ledger

/-!
The consumer of the event stream. It admits confirmed migrations and bank-bound
transfers that nobody tracks, settles the transactions that are tracked, keeps the
ledger and moves a cursor on after every block it has fully handled.
-/

namespace Settlement.Consumer

open Chain

structure Settings where
  stream : Uuid
  epoch : Nat
  contract : String
  manager : String
  denom : String
  bankDenom : String

def Settings.ledger (settings : Settings) : Ledger.Settings := ⟨settings.manager, settings.bankDenom⟩

/-- Stands for a transaction that the chain does not know or could not be asked about. -/
def nullResponse : String := "Invalid (NULL) transaction response"

inductive Observed where
  | migration (event : Migration)
  | transfer (event : Transfer)
  | other (txHash : String)

def Observed.txHash : Observed → String
  | .migration event => event.txHash
  | .transfer event => event.txHash
  | .other txHash => txHash

def observe (contract : String) (batch : Batch) (transfers : List Transfer) : List Observed :=
  (batch.mints contract).map (fun mint => .other mint.txHash) ++
  (batch.burns contract).map (fun burn => .other burn.txHash) ++
  (batch.redemptions contract).map (fun redemption => .other redemption.txHash) ++
  transfers.map .transfer ++
  (batch.migrations contract).map .migration

def ofStorage (fault : Store.Fault) : Failure := .ofCause (.storage fault)

def storage (statement : Store.Statement) : Activity Failure statement.Reply :=
  Activity.storage ofStorage statement

def isConfirmed (txHash : String) : Activity Failure Bool :=
  .ask (.transaction txHash) fun reply =>
    match reply with
    | .ok (some tx) => pure !tx.isFailed
    | .ok none => pure false
    | .error failure =>
        .fail ((Failure.ofCause (.chain failure)).within ("failed to fetch tx " ++ txHash))

def admitMigration (migration : Migration) : Activity Failure Unit := do
  if ← isConfirmed migration.txHash then
    let stamp ← Activity.request .stamp
    discard (storage (.addMigration
      ⟨stamp.id, migration.codeId, migration.txHash, none, stamp.time⟩))

def admitTransfer (transfer : Transfer) : Activity Failure Unit := do
  if ← isConfirmed transfer.txHash then
    let stamp ← Activity.request .stamp
    match Height.stored? transfer.height with
    | none => .fail (.ofCause .heightRange)
    | some height =>
      discard (storage (.addDeposit ⟨stamp.id, transfer.sender, transfer.recipient,
        transfer.denom, transfer.amount, height, transfer.txHash, .inserted, stamp.time,
        stamp.time⟩))

def verdict : Except Chain.Failure (Option TxResponse) → TxStatus × Option String
  | .ok (some tx) => if tx.isFailed then (.error, some tx.result.log) else (.complete, none)
  | .ok none => (.error, some nullResponse)
  | .error _ => (.error, some nullResponse)

/-- The chain is asked while the row is free; the row is read again before it is written. -/
def reconcile (tracked : Store.Tracked) : Activity Failure Unit :=
  if tracked.status.isTerminal then pure ()
  else do
    let reply ← Activity.request (.transaction tracked.txHash)
    let (status, message) := verdict reply
    let stamp ← Activity.request .stamp
    storage (.settle tracked.txHash status message stamp.time)

def isBankBound (settings : Settings) (transfer : Transfer) : Bool :=
  transfer.recipient = settings.manager && transfer.denom = settings.denom

def admitObserved (settings : Settings) : Observed → Activity Failure Unit
  | .migration migration => do
      if (← storage (.migration migration.txHash)).isNone then admitMigration migration
  | .transfer transfer => do
      if isBankBound settings transfer then
        if (← storage (.deposit transfer.txHash)).isNone then admitTransfer transfer
  | .other _ => pure ()

def handleObserved (settings : Settings) (observed : Observed) : Activity Failure Unit := do
  match ← storage (.tracked observed.txHash) with
  | some tracked => reconcile tracked
  | none => admitObserved settings observed

/-- One after the other, up to the first failure. -/
def forEach {α : Type} (handle : α → Activity Failure Unit) : List α → Activity Failure Unit
  | [] => pure ()
  | item :: rest => do
      handle item
      forEach handle rest

def handleEvents (settings : Settings) (batch : Batch) (transfers : List Transfer) :
    Activity Failure Unit :=
  forEach (handleObserved settings) (observe settings.contract batch transfers)

def recordBlock (settings : Settings) (height : Nat) (batch : Batch) : Activity Failure Nat :=
  Ledger.recordBlock settings.ledger Directory.resolve height (batch.mints settings.contract)
    (batch.transfers settings.contract) batch.markerTransfers

def handleBatch (settings : Settings) (batch : Batch) : Activity Failure Unit := do
  handleEvents settings batch (batch.transfers settings.contract)
  discard (recordBlock settings batch.height batch)

def storedHeight (height : Nat) : Activity Failure Int :=
  match Height.stored? height with
  | some stored => pure stored
  | none => .fail (.ofCause .heightRange)

/-- The stored cursor; on the first run it is created at the epoch. -/
def openCursor (settings : Settings) : Activity Failure Store.Cursor := do
  match ← storage (.cursor settings.stream) with
  | some cursor => return cursor
  | none =>
    let epoch ← storedHeight settings.epoch
    let stamp ← Activity.request .stamp
    storage (.addCursor settings.stream epoch stamp.time)
    match ← storage (.cursor settings.stream) with
    | some cursor => return cursor
    | none => .fail (.ofCause (.storage .unavailable))

def consumeItem (settings : Settings) : Except Chain.Failure Batch → Activity Failure Unit
  | .error failure => .fail ((Failure.ofCause (.source failure)).within "event stream failed")
  | .ok batch => do
      (handleBatch settings batch).mapFailure
        (Failure.within ("failed to handle block " ++ toString batch.height))
      let height ← storedHeight batch.height
      let stamp ← Activity.request .stamp
      storage (.moveCursor settings.stream height stamp.time)

def consume (settings : Settings) : Activity Failure Unit := do
  let cursor ← openCursor settings
  match Height.next? (Height.shown cursor.height) with
  | none => .fail (.ofCause .noNextHeight)
  | some height =>
    let items ← Activity.request (.openStream Event.streamedTypes height)
    forEach (consumeItem settings) items

/-- The first rounds of a consumer that starts over whenever the stream ended, however it did. -/
def supervise (settings : Settings) : (rounds : Nat) → Activity Failure Unit
  | 0 => pure ()
  | rounds + 1 => (consume settings).attempt fun _ => supervise settings rounds

end Settlement.Consumer
