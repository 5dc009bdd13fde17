import Settlement.Directory
import Settlement.Time.Span

/-!
The queue of deposits that the bank has to hear of. A worker claims a deposit for a
limited time before it calls the bank; a failure gives the claim back, a success moves
the deposit on, which ends the claim.
-/

namespace Settlement.DepositQueue

inductive Failure where
  | storage (fault : Store.Fault)
  | notRegistered (address : String)
  | bank (failure : Bank.Failure)
  | claimRange
  deriving DecidableEq

def Failure.message? : Failure → Option String
  | .notRegistered address => some ("address " ++ address ++ " is not registered")
  | .bank failure => some ("fiat deposit request failed: " ++ failure.message?.getD "")
  | .storage _ | .claimRange => none

def storage (statement : Store.Statement) : Activity Failure statement.Reply :=
  Activity.storage .storage statement

/-- Milliseconds in the clock's signed 64-bit range, with higher bits cut off. -/
def clockMilliseconds (span : Span) : Int := Int.bmod span.milliseconds 0x1_0000_0000_0000_0000

def claimEnd? (now : Int) (ttl : Span) : Option Int :=
  let limit := now + clockMilliseconds ttl
  if -0x8000_0000_0000_0000 ≤ limit ∧ limit < 0x8000_0000_0000_0000 then some limit else none

def load : Activity Failure (List Uuid) := do
  let now ← Activity.request .clock
  storage (.pending now)

def notifyBank (id : Uuid) (address amount : String) : Activity Failure Unit := do
  match ← (Directory.resolveActive address).mapFailure .storage with
  | none => .fail (.notRegistered address)
  | some account =>
    match ← Activity.request (.notifyBank ⟨id, account, amount⟩) with
    | .ok () => return ()
    | .error failure => .fail (.bank failure)

/-- Tells whether the bank was notified; a deposit that cannot be claimed is left alone. -/
def process (ttl : Span) (id : Uuid) : Activity Failure Bool := do
  let now ← Activity.request .clock
  match claimEnd? now ttl with
  | none => .fail .claimRange
  | some limit =>
    match ← storage (.claim id now limit) with
    | none => return false
    | some deposit =>
      (notifyBank id deposit.fromAddress deposit.amount).attempt fun
        | .error failure => do
            storage (.release id)
            .fail failure
        | .ok () => do
            let stamp ← Activity.request .stamp
            let _ ← storage (.advance id .inserted .actionComplete stamp.time)
            return true

abbrev Outcomes := List (Uuid × Except Failure Bool)

def processAll (ttl : Span) : List Uuid → Activity Failure Outcomes
  | [] => pure []
  | id :: rest => (process ttl id).attempt fun outcome => do
      let others ← processAll ttl rest
      return (id, outcome) :: others

/-- One load of a lone worker and all that it leads to. A failed load leads to nothing. -/
def cycle (ttl : Span) : Activity Failure (Except Failure (List Uuid) × Outcomes) :=
  load.attempt fun
    | .error failure => pure (.error failure, [])
    | .ok ids => do
        let outcomes ← processAll ttl ids.eraseDups
        return (.ok ids, outcomes)

end Settlement.DepositQueue
