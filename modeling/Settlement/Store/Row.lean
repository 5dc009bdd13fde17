import Settlement.Store.Cell

/-!
The rows of the six tables as storage keeps them. A text column holds any text. Only
the columns that may be empty are optional.
-/

namespace Settlement.Store

structure CursorRow where
  stream : String
  height : Cell
  created : String
  updated : String
  deriving DecidableEq

structure TrackedRow where
  id : String
  txHash : String
  kind : String
  status : String
  message : Option String
  created : String
  updated : String
  deriving DecidableEq

/-- A coin transfer to the managed address that the bank has to hear of. -/
structure DepositRow where
  id : String
  fromAddress : String
  toAddress : String
  denom : String
  amount : String
  height : Cell
  txHash : String
  status : String
  /-- The time in milliseconds up to which a worker holds the row. -/
  claimedUntil : Option Cell
  created : String
  updated : String
  deriving DecidableEq

structure MigrationRow where
  id : String
  codeId : String
  txHash : String
  sent : Option String
  created : String
  deriving DecidableEq

structure MovementRow where
  key : String
  legacyHash : Option String
  fromAddress : String
  fromBank : Option String
  toAddress : String
  toBank : Option String
  height : Cell
  time : String
  amount : String
  denom : String
  kind : String
  created : String
  deriving DecidableEq

structure RegistrationRow where
  id : String
  address : String
  bankAccount : String
  active : Bool
  created : String
  deriving DecidableEq

end Settlement.Store

namespace Settlement

structure Store where
  cursors : List Store.CursorRow
  tracked : List Store.TrackedRow
  deposits : List Store.DepositRow
  migrations : List Store.MigrationRow
  movements : List Store.MovementRow
  registrations : List Store.RegistrationRow
  deriving DecidableEq

def Store.empty : Store := ⟨[], [], [], [], [], []⟩

end Settlement
