import Settlement.Store.Height
import Settlement.Store.Record

/-!
The table operations. Each acts on the rows of one table; an insert that meets a taken
key changes nothing, an update touches every row that fits its condition and leaves the
order of the rows alone.
-/

namespace Settlement.Store

section Cursors
variable (rows : List CursorRow) (stream : Uuid)

def findCursor : Except Fault (Option Cursor) :=
  readOptional CursorRow.read (rows.find? fun row => row.stream = stream.text)

def addCursor (cursor : Cursor) : List CursorRow :=
  if rows.any fun row => row.stream = cursor.stream.text then rows else rows ++ [cursor.row]

def moveCursor (height : Int) (now : Timestamp) : List CursorRow :=
  rows.map fun row =>
    if row.stream = stream.text then { row with height := .number height, updated := now.stored }
    else row

end Cursors

section Tracking
variable (rows : List TrackedRow)

def findTracked (txHash : String) : Except Fault (Option Tracked) :=
  readOptional TrackedRow.read (rows.find? fun row => row.txHash = txHash)

def addTracked (row : TrackedRow) : List TrackedRow :=
  if rows.any fun other => other.id = row.id ∨ other.txHash = row.txHash then rows
  else rows ++ [row]

def setStatus (id : Uuid) (status : TxStatus) (message : Option String) (now : Timestamp) :
    List TrackedRow :=
  rows.map fun row =>
    if row.id = id.text then
      { row with status := Named.text status, message, updated := now.stored }
    else row

/-- Reads the row again and writes the status, unless the row is gone or already terminal. -/
def settle (txHash : String) (status : TxStatus) (message : Option String) (now : Timestamp) :
    Except Fault (List TrackedRow) := do
  match ← findTracked rows txHash with
  | some tracked =>
      if tracked.status.isTerminal then return rows
      else return setStatus rows tracked.id status message now
  | none => return rows

end Tracking

section Deposits
variable (rows : List DepositRow)

def findDeposit (txHash : String) : Except Fault (Option Deposit) :=
  readOptional DepositRow.read (rows.find? fun row => row.txHash = txHash)

def addDeposit (row : DepositRow) : Option (List DepositRow) :=
  if rows.any fun other => other.id = row.id ∨ other.txHash = row.txHash then none
  else some (rows ++ [row])

def DepositRow.isPending (now : Int) (row : DepositRow) : Bool :=
  row.status = Named.text DepositStatus.inserted &&
    row.claimedUntil.all fun limit => limit.isBelow now

/-- By height, then by creation; equal ones stay in their order. -/
def DepositRow.before (a b : DepositRow) : Bool :=
  if a.height = b.height then !(b.created < a.created) else a.height.atMost b.height

def pendingRows (now : Int) : List DepositRow :=
  (rows.filter (DepositRow.isPending now)).mergeSort DepositRow.before

def pendingIds (now : Int) : Except Fault (List Uuid) :=
  (pendingRows rows now).mapM fun row => readId "uuid" row.id

def DepositRow.isClaimable (id : Uuid) (now : Int) (row : DepositRow) : Bool :=
  row.id = id.text && row.isPending now

/-- The claim stays in the rows even if the claimed row cannot be read. -/
def claim (id : Uuid) (now limit : Int) : Except Fault (Option Deposit) × List DepositRow :=
  (readOptional DepositRow.read (rows.find? (DepositRow.isClaimable id now)),
    rows.map fun row =>
      if row.isClaimable id now then { row with claimedUntil := some (.number limit) } else row)

def DepositRow.isAt (id : Uuid) (status : DepositStatus) (row : DepositRow) : Bool :=
  row.id = id.text && row.status = Named.text status

def advance (id : Uuid) (source target : DepositStatus) (now : Timestamp) :
    Bool × List DepositRow :=
  (rows.any (DepositRow.isAt id source),
    rows.map fun row =>
      if row.isAt id source then
        { row with status := Named.text target, claimedUntil := none, updated := now.stored }
      else row)

def release (id : Uuid) : List DepositRow :=
  rows.map fun row => if row.id = id.text then { row with claimedUntil := none } else row

end Deposits

section Migrations
variable (rows : List MigrationRow)

def findMigration (txHash : String) : Except Fault (Option Migration) :=
  readOptional MigrationRow.read (rows.find? fun row => row.txHash = txHash)

def addMigration (row : MigrationRow) : Option (List MigrationRow) :=
  if rows.any fun other => other.id = row.id ∨ other.txHash = row.txHash then none
  else some (rows ++ [row])

end Migrations

section Movements
variable (rows : List MovementRow)

def addMovement (row : MovementRow) : Option (List MovementRow) :=
  if rows.any fun other => other.key = row.key then none else some (rows ++ [row])

/-- A movement that is ready for the ledger but for its height, which may not fit. -/
structure Entry where
  key : String
  txHash : String
  fromAddress : String
  fromBank : Option Uuid
  toAddress : String
  toBank : Option Uuid
  height : Nat
  time : Timestamp
  amount : String
  denom : String
  kind : MovementKind
  deriving DecidableEq

def Entry.movement? (entry : Entry) : Option Movement := do
  let height ← Height.stored? entry.height
  return ⟨entry.key, some entry.txHash, entry.fromAddress, entry.fromBank, entry.toAddress,
    entry.toBank, height, entry.time, entry.amount, entry.denom, entry.kind⟩

/-- Inserts one entry after the other, each at its own time, and counts the new rows. A height
that does not fit leaves nothing of what was inserted before. -/
def appendEntries (now : Nat → Timestamp) : List Entry → List MovementRow →
    Option (Nat × List MovementRow)
  | [], rows => some (0, rows)
  | entry :: rest, rows => do
      let movement ← entry.movement?
      let later := fun index => now (index + 1)
      match addMovement rows (movement.row (now 0)) with
      | none => appendEntries later rest rows
      | some rows => (appendEntries later rest rows).map fun (count, rows) => (count + 1, rows)

/-- From the first time on and up to but not including the second, as texts. -/
def MovementRow.inWindow (first last : Option Timestamp) (row : MovementRow) : Bool :=
  (first.all fun time => !(row.time < time.stored)) && last.all fun time => row.time < time.stored

def MovementRow.before (a b : MovementRow) : Bool :=
  if a.height = b.height then !(b.key < a.key) else a.height.atMost b.height

def cut (offset limit : Int) (rows : List MovementRow) : List MovementRow :=
  let rest := rows.drop offset.toNat
  if limit < 0 then rest else rest.take limit.toNat

/-- Rows of the whole table with the same bare hash; without one there are none. -/
def siblings (row : MovementRow) : Nat :=
  match row.legacyHash with
  | none => 0
  | some txHash => rows.countP fun other => other.legacyHash = some txHash

structure Listed where
  movement : Movement
  movementsInTx : Nat
  deriving DecidableEq

def listedRows (first last : Option Timestamp) (offset limit : Int) : List MovementRow :=
  cut offset limit ((rows.filter (MovementRow.inWindow first last)).mergeSort MovementRow.before)

def list (first last : Option Timestamp) (offset limit : Int) : Except Fault (List Listed) :=
  (listedRows rows first last offset limit).mapM fun row => do
    return ⟨← row.read, siblings rows row⟩

end Movements

section Registrations
variable (rows : List RegistrationRow)

def newest : List RegistrationRow → Option RegistrationRow
  | [] => none
  | row :: rest =>
    match newest rest with
    | none => some row
    | some other => if row.created < other.created then some other else some row

def latestRegistration (address : String) : Except Fault (Option Registration) :=
  readOptional RegistrationRow.read (newest (rows.filter fun row => row.address = address))

def latestActiveRegistration (address : String) : Except Fault (Option Registration) :=
  readOptional RegistrationRow.read
    (newest (rows.filter fun row => row.address = address && row.active))

end Registrations

end Settlement.Store
