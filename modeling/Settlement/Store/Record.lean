import Settlement.Store.Named
import Settlement.Store.Row
import Settlement.Time.Column
import Settlement.Uuid

/-!
What the rows mean. Writing a record gives its row; reading a row gives its record, or
names the first column, in the order of the record, whose content has no meaning.
-/

namespace Settlement.Store

inductive Fault where
  | unavailable
  | undecodable (column : String)
  deriving DecidableEq

section Columns
variable (column : String)

def readId (text : String) : Except Fault Uuid :=
  (Uuid.ofText? text).elim (.error (.undecodable column)) .ok

def readTime (text : String) : Except Fault Timestamp :=
  (Time.ofColumn? text).elim (.error (.undecodable column)) .ok

def readName {α : Type} [Named α] (text : String) : Except Fault α :=
  (Named.ofText? text).elim (.error (.undecodable column)) .ok

def readNumber : Cell → Except Fault Int
  | .number value => .ok value
  | .real _ | .text _ => .error (.undecodable column)

def readOptional {α β : Type} (read : α → Except Fault β) : Option α → Except Fault (Option β)
  | none => .ok none
  | some value => (read value).map some

end Columns

structure Cursor where
  stream : Uuid
  height : Int
  created : Timestamp
  updated : Timestamp
  deriving DecidableEq

def Cursor.row (cursor : Cursor) : CursorRow where
  stream := cursor.stream.text
  height := .number cursor.height
  created := cursor.created.stored
  updated := cursor.updated.stored

def CursorRow.read (row : CursorRow) : Except Fault Cursor := do
  let stream ← readId "uuid" row.stream
  let height ← readNumber "last_block_height" row.height
  let created ← readTime "created" row.created
  let updated ← readTime "updated" row.updated
  return ⟨stream, height, created, updated⟩

structure Tracked where
  id : Uuid
  txHash : String
  kind : TxKind
  status : TxStatus
  message : Option String
  created : Timestamp
  updated : Timestamp
  deriving DecidableEq

def TrackedRow.read (row : TrackedRow) : Except Fault Tracked := do
  let id ← readId "uuid" row.id
  let kind ← readName "tx_type" row.kind
  let status ← readName "status" row.status
  let created ← readTime "created" row.created
  let updated ← readTime "updated" row.updated
  return ⟨id, row.txHash, kind, status, row.message, created, updated⟩

structure Deposit where
  id : Uuid
  fromAddress : String
  toAddress : String
  denom : String
  amount : String
  height : Int
  txHash : String
  status : DepositStatus
  created : Timestamp
  updated : Timestamp
  deriving DecidableEq

def Deposit.row (deposit : Deposit) : DepositRow where
  id := deposit.id.text
  fromAddress := deposit.fromAddress
  toAddress := deposit.toAddress
  denom := deposit.denom
  amount := deposit.amount
  height := .number deposit.height
  txHash := deposit.txHash
  status := Named.text deposit.status
  claimedUntil := none
  created := deposit.created.stored
  updated := deposit.updated.stored

def DepositRow.read (row : DepositRow) : Except Fault Deposit := do
  let id ← readId "uuid" row.id
  let height ← readNumber "height" row.height
  let status ← readName "status" row.status
  let created ← readTime "created" row.created
  let updated ← readTime "updated" row.updated
  return ⟨id, row.fromAddress, row.toAddress, row.denom, row.amount, height, row.txHash, status,
    created, updated⟩

structure Migration where
  id : Uuid
  codeId : String
  txHash : String
  sent : Option Timestamp
  created : Timestamp
  deriving DecidableEq

def Migration.row (migration : Migration) : MigrationRow where
  id := migration.id.text
  codeId := migration.codeId
  txHash := migration.txHash
  sent := migration.sent.map Timestamp.stored
  created := migration.created.stored

def MigrationRow.read (row : MigrationRow) : Except Fault Migration := do
  let id ← readId "uuid" row.id
  let sent ← readOptional (readTime "sent") row.sent
  let created ← readTime "created" row.created
  return ⟨id, row.codeId, row.txHash, sent, created⟩

/-- Coin that moved between an address and a bank account or between two addresses. -/
structure Movement where
  /-- The transaction's hash and the movement's index in its block. -/
  key : String
  legacyHash : Option String
  fromAddress : String
  fromBank : Option Uuid
  toAddress : String
  toBank : Option Uuid
  height : Int
  time : Timestamp
  amount : String
  denom : String
  kind : MovementKind
  deriving DecidableEq

def Movement.row (movement : Movement) (created : Timestamp) : MovementRow where
  key := movement.key
  legacyHash := movement.legacyHash
  fromAddress := movement.fromAddress
  fromBank := movement.fromBank.map Uuid.text
  toAddress := movement.toAddress
  toBank := movement.toBank.map Uuid.text
  height := .number movement.height
  time := movement.time.stored
  amount := movement.amount
  denom := movement.denom
  kind := Named.text movement.kind
  created := created.stored

def MovementRow.read (row : MovementRow) : Except Fault Movement := do
  let fromBank ← readOptional (readId "from_addr_bank_uuid") row.fromBank
  let toBank ← readOptional (readId "to_addr_bank_uuid") row.toBank
  let height ← readNumber "block_height" row.height
  let time ← readTime "block_time" row.time
  let kind ← readName "type" row.kind
  return ⟨row.key, row.legacyHash, row.fromAddress, fromBank, row.toAddress, toBank, height, time,
    row.amount, row.denom, kind⟩

structure Registration where
  id : Uuid
  address : String
  bankAccount : Uuid
  active : Bool
  created : Timestamp
  deriving DecidableEq

def RegistrationRow.read (row : RegistrationRow) : Except Fault Registration := do
  let id ← readId "uuid" row.id
  let bankAccount ← readId "bank_account_uuid" row.bankAccount
  let created ← readTime "created" row.created
  return ⟨id, row.address, bankAccount, row.active, created⟩

end Settlement.Store
