import Settlement.Store.Table

/-!
The atomic storage calls. Each reads and writes within one transaction; a call that
fails leaves the tables as they were, except for a claim on a row that cannot be read.
-/

namespace Settlement.Store

inductive Statement where
  | cursor (stream : Uuid)
  | addCursor (stream : Uuid) (height : Int) (now : Timestamp)
  | moveCursor (stream : Uuid) (height : Int) (now : Timestamp)
  | tracked (txHash : String)
  | settle (txHash : String) (status : TxStatus) (message : Option String) (now : Timestamp)
  | deposit (txHash : String)
  | addDeposit (deposit : Deposit)
  | pending (now : Int)
  | claim (id : Uuid) (now limit : Int)
  | advance (id : Uuid) (source target : DepositStatus) (now : Timestamp)
  | release (id : Uuid)
  | migration (txHash : String)
  | addMigration (migration : Migration)
  | append (entries : List Entry) (now : Nat → Timestamp)
  | list (first last : Option Timestamp) (offset limit : Int)
  | registration (address : String)
  | activeRegistration (address : String)

namespace Statement

/-- An appending reply is the number of new rows, or nothing if a height did not fit. -/
abbrev Reply : Statement → Type
  | .cursor _ => Option Cursor
  | .addCursor .. => Unit
  | .moveCursor .. => Unit
  | .tracked _ => Option Tracked
  | .settle .. => Unit
  | .deposit _ => Option Deposit
  | .addDeposit _ => Bool
  | .pending _ => List Uuid
  | .claim .. => Option Deposit
  | .advance .. => Bool
  | .release _ => Unit
  | .migration _ => Option Migration
  | .addMigration _ => Bool
  | .append .. => Option Nat
  | .list .. => List Listed
  | .registration _ => Option Registration
  | .activeRegistration _ => Option Registration

def run : (statement : Statement) → Store → Except Fault statement.Reply × Store
  | .cursor stream, store => (findCursor store.cursors stream, store)
  | .addCursor stream height now, store =>
      (.ok (), { store with cursors := Store.addCursor store.cursors ⟨stream, height, now, now⟩ })
  | .moveCursor stream height now, store =>
      (.ok (), { store with cursors := Store.moveCursor store.cursors stream height now })
  | .tracked txHash, store => (findTracked store.tracked txHash, store)
  | .settle txHash status message now, store =>
    match Store.settle store.tracked txHash status message now with
    | .ok rows => (.ok (), { store with tracked := rows })
    | .error fault => (.error fault, store)
  | .deposit txHash, store => (findDeposit store.deposits txHash, store)
  | .addDeposit record, store =>
    match Store.addDeposit store.deposits record.row with
    | some rows => (.ok true, { store with deposits := rows })
    | none => (.ok false, store)
  | .pending now, store => (pendingIds store.deposits now, store)
  | .claim id now limit, store =>
      let (reply, rows) := Store.claim store.deposits id now limit
      (reply, { store with deposits := rows })
  | .advance id source target now, store =>
      let (moved, rows) := Store.advance store.deposits id source target now
      (.ok moved, { store with deposits := rows })
  | .release id, store => (.ok (), { store with deposits := Store.release store.deposits id })
  | .migration txHash, store => (findMigration store.migrations txHash, store)
  | .addMigration record, store =>
    match Store.addMigration store.migrations record.row with
    | some rows => (.ok true, { store with migrations := rows })
    | none => (.ok false, store)
  | .append entries now, store =>
    match appendEntries now entries store.movements with
    | some (count, rows) => (.ok (some count), { store with movements := rows })
    | none => (.ok none, store)
  | .list first last offset limit, store =>
      (Store.list store.movements first last offset limit, store)
  | .registration address, store => (latestRegistration store.registrations address, store)
  | .activeRegistration address, store =>
      (latestActiveRegistration store.registrations address, store)

end Statement

end Settlement.Store
