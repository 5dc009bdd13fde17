import Settlement.Bank
import Settlement.Chain.Answer
import Settlement.Chain.Event
import Settlement.Chain.Failure
import Settlement.Store.Statement

/-!
What the service does, as a sequence of questions to the world around it. Every
question is answered at once and on its own, so two activities interleave between
questions and nowhere else, and an activity that dies does so between two questions.
-/

namespace Settlement

structure Stamp where
  id : Uuid
  time : Timestamp

inductive Request where
  | storage (statement : Store.Statement)
  | transaction (txHash : String)
  | block (height : Nat)
  | notifyBank (request : Bank.Request)
  | openStream (types : List String) (height : Nat)
  | stamp
  /-- The current time, each time it is read. -/
  | times
  /-- The current time in milliseconds. -/
  | clock

namespace Request

/-- A stream's reply is the list of the items that it delivers until it ends. -/
abbrev Reply : Request → Type
  | .storage statement => Except Store.Fault statement.Reply
  | .transaction _ => Except Chain.Failure (Option Chain.TxResponse)
  | .block _ => Except Chain.Failure Chain.BlockHeader
  | .notifyBank _ => Except Bank.Failure Unit
  | .openStream .. => List (Except Chain.Failure Chain.Batch)
  | .stamp => Stamp
  | .times => Nat → Timestamp
  | .clock => Int

end Request

inductive Activity (ε α : Type) where
  | done (result : Except ε α)
  | ask (request : Request) (next : request.Reply → Activity ε α)

namespace Activity

variable {ε α β : Type}

def bind : Activity ε α → (α → Activity ε β) → Activity ε β
  | .done (.ok value), next => next value
  | .done (.error failure), _ => .done (.error failure)
  | .ask request answer, next => .ask request fun reply => (answer reply).bind next

instance : Monad (Activity ε) where
  pure value := .done (.ok value)
  bind := bind

def fail (failure : ε) : Activity ε α := .done (.error failure)

/-- Continues after a failure as well as after a success. -/
def attempt : Activity ε α → (Except ε α → Activity ε β) → Activity ε β
  | .done result, next => next result
  | .ask request answer, next => .ask request fun reply => (answer reply).attempt next

def mapFailure {δ : Type} (view : ε → δ) : Activity ε α → Activity δ α
  | .done (.ok value) => .done (.ok value)
  | .done (.error failure) => .done (.error (view failure))
  | .ask request answer => .ask request fun reply => (answer reply).mapFailure view

def request (request : Request) : Activity ε request.Reply := .ask request fun reply => .done (.ok reply)

def storage (view : Store.Fault → ε) (statement : Store.Statement) : Activity ε statement.Reply :=
  .ask (.storage statement) fun reply =>
    match reply with
    | .ok value => .done (.ok value)
    | .error fault => .done (.error (view fault))

def run {m : Type → Type} [Monad m] (answer : (request : Request) → m request.Reply) :
    Activity ε α → m (Except ε α)
  | .done result => pure result
  | .ask request next => do
      let reply ← answer request
      (next reply).run answer

end Activity

end Settlement
