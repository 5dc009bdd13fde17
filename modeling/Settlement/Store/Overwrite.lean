import Settlement.Store.Row

/-!
Overwriting a single column with any text, as a hand at the database can do.
-/

namespace Settlement.Store

def TrackedRow.overwrite (column value : String) (row : TrackedRow) : Option TrackedRow :=
  match column with
  | "uuid" => some { row with id := value }
  | "tx_hash" => some { row with txHash := value }
  | "tx_type" => some { row with kind := value }
  | "status" => some { row with status := value }
  | "error_message" => some { row with message := some value }
  | "created" => some { row with created := value }
  | "updated" => some { row with updated := value }
  | _ => none

def DepositRow.overwrite (column value : String) (row : DepositRow) : Option DepositRow :=
  match column with
  | "uuid" => some { row with id := value }
  | "from_address" => some { row with fromAddress := value }
  | "to_address" => some { row with toAddress := value }
  | "denom" => some { row with denom := value }
  | "amount" => some { row with amount := value }
  | "height" => some { row with height := .ofText value }
  | "tx_hash" => some { row with txHash := value }
  | "status" => some { row with status := value }
  | "claimed_until" => some { row with claimedUntil := some (.ofText value) }
  | "created" => some { row with created := value }
  | "updated" => some { row with updated := value }
  | _ => none

def MigrationRow.overwrite (column value : String) (row : MigrationRow) : Option MigrationRow :=
  match column with
  | "uuid" => some { row with id := value }
  | "code_id" => some { row with codeId := value }
  | "tx_hash" => some { row with txHash := value }
  | "sent" => some { row with sent := some value }
  | "created" => some { row with created := value }
  | _ => none

def MovementRow.overwrite (column value : String) (row : MovementRow) : Option MovementRow :=
  match column with
  | "tx_hash_v2" => some { row with key := value }
  | "legacy_tx_hash" => some { row with legacyHash := some value }
  | "from_address" => some { row with fromAddress := value }
  | "from_addr_bank_uuid" => some { row with fromBank := some value }
  | "to_address" => some { row with toAddress := value }
  | "to_addr_bank_uuid" => some { row with toBank := some value }
  | "block_height" => some { row with height := .ofText value }
  | "block_time" => some { row with time := value }
  | "amount" => some { row with amount := value }
  | "denom" => some { row with denom := value }
  | "type" => some { row with kind := value }
  | "created" => some { row with created := value }
  | _ => none

def overwriteRows {row : Type} (hit : row → Bool) (change : row → Option row) (rows : List row) :
    Option (Nat × List row) := do
  let changed ← rows.mapM fun row => if hit row then change row else some row
  return (rows.countP hit, changed)

end Settlement.Store

namespace Settlement

open Store

def Store.overwrite (store : Store) (table column value txHash : String) : Option (Nat × Store) :=
  match table with
  | "tx_status" =>
      (overwriteRows (·.txHash = txHash) (TrackedRow.overwrite column value) store.tracked).map
        fun (hits, rows) => (hits, { store with tracked := rows })
  | "marker_transfer" =>
      (overwriteRows (·.txHash = txHash) (DepositRow.overwrite column value) store.deposits).map
        fun (hits, rows) => (hits, { store with deposits := rows })
  | "migration" =>
      (overwriteRows (·.txHash = txHash) (MigrationRow.overwrite column value)
        store.migrations).map fun (hits, rows) => (hits, { store with migrations := rows })
  | "coin_movement" =>
      (overwriteRows (·.key = txHash) (MovementRow.overwrite column value) store.movements).map
        fun (hits, rows) => (hits, { store with movements := rows })
  | _ => none

end Settlement
