/-!
Columns that hold one of a few fixed names. Each name stands for one value, and a
text is read as the value that it names exactly.
-/

namespace Settlement

class Named (α : Type) where
  noun : String
  all : List α
  text : α → String

namespace Named

variable {α : Type} [Named α]

def ofText? (name : String) : Option α := (all (α := α)).find? fun value => text value = name

def unknownMessage (α : Type) [Named α] (name : String) : String :=
  "Unknown " ++ noun α ++ ": " ++ name

end Named

/-- Progress of a transaction that the service itself submitted. -/
inductive TxStatus where
  | pending
  | actionComplete
  | complete
  | error
  deriving DecidableEq

/-- A terminal status never changes again. -/
def TxStatus.isTerminal : TxStatus → Bool
  | .complete | .error => true
  | .pending | .actionComplete => false

instance : Named TxStatus where
  noun := "tx status"
  all := [.pending, .actionComplete, .complete, .error]
  text
    | .pending => "PENDING"
    | .actionComplete => "ACTION_COMPLETE"
    | .complete => "COMPLETE"
    | .error => "ERROR"

inductive TxKind where
  | mint
  | burn
  | redeem
  | transfer
  | migration
  deriving DecidableEq

instance : Named TxKind where
  noun := "tx type"
  all := [.mint, .burn, .redeem, .transfer, .migration]
  text
    | .mint => "MINT_CONTRACT"
    | .burn => "BURN_CONTRACT"
    | .redeem => "REDEEM_CONTRACT"
    | .transfer => "TRANSFER_CONTRACT"
    | .migration => "MIGRATION"

inductive DepositStatus where
  | inserted
  | actionComplete
  | txnComplete
  deriving DecidableEq

instance : Named DepositStatus where
  noun := "marker transfer status"
  all := [.inserted, .actionComplete, .txnComplete]
  text
    | .inserted => "INSERTED"
    | .actionComplete => "ACTION_COMPLETE"
    | .txnComplete => "TXN_COMPLETE"

inductive MovementKind where
  | mint
  | burn
  | transfer
  deriving DecidableEq

instance : Named MovementKind where
  noun := "coin movement type"
  all := [.mint, .burn, .transfer]
  text
    | .mint => "MINT"
    | .burn => "BURN"
    | .transfer => "TRANSFER"

end Settlement
