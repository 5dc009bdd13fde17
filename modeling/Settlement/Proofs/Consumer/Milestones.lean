import Settlement.Proofs.Activity.Marked
import Settlement.Proofs.Consumer.Questions
import Settlement.Proofs.Store.Effects

/-!
The supervisor with a mark at every stage of a batch. Between two marks the handling of a
batch never writes a cursor.
-/

namespace Settlement

theorem Activity.mapFailure_bind {ε δ α β : Type} (view : ε → δ) (first : Activity ε α)
    (next : α → Activity ε β) :
    (first >>= next).mapFailure view =
      first.mapFailure view >>= fun value => (next value).mapFailure view := by
  change (first.bind next).mapFailure view = (first.mapFailure view).bind _
  induction first with
  | done result => cases result <;> rfl
  | ask request rest ih => simp only [bind, mapFailure, ih]

theorem Activity.bind_assoc {ε α β γ : Type} (first : Activity ε α) (next : α → Activity ε β)
    (last : β → Activity ε γ) :
    (first >>= next) >>= last = first >>= fun value => next value >>= last := by
  change (first.bind next).bind last = first.bind fun value => (next value).bind last
  induction first with
  | done result => cases result <;> rfl
  | ask request rest ih => simp only [bind, ih]

namespace Coverage

open Consumer

open Activity (request)
open Marked (ofActivity pass)

inductive Milestone where
  | moved (cell : Option Store.Cell)
  | opened (height : Nat)
  | began (height : Nat)
  | handled (height : Nat)
  | recorded (height : Nat)
  | ended (succeeded : Bool)

section Marks

variable (settings : Settings)

def moveOn (height : Nat) : Activity Failure Unit := do
  let stored ← storedHeight height
  let stamp ← request .stamp
  storage (.moveCursor settings.stream stored stamp.time)

def markedItem : Except Chain.Failure Chain.Batch → Marked Milestone Failure Unit
  | .error failure => ofActivity (consumeItem settings (.error failure))
  | .ok batch => do
      let named := Failure.within ("failed to handle block " ++ toString batch.height)
      pass (.began batch.height)
      ofActivity ((handleEvents settings batch
        (batch.transfers settings.contract)).mapFailure named)
      pass (.handled batch.height)
      ofActivity ((discard (recordBlock settings batch.height batch)).mapFailure named)
      pass (.recorded batch.height)
      ofActivity (moveOn settings batch.height)

def markedItems : List (Except Chain.Failure Chain.Batch) → Marked Milestone Failure Unit
  | [] => pure ()
  | item :: rest => do
      markedItem settings item
      markedItems rest

def markedConsume : Marked Milestone Failure Unit := do
  let cursor ← ofActivity (openCursor settings)
  match Height.next? (Height.shown cursor.height) with
  | none => ofActivity (.fail (.ofCause .noNextHeight))
  | some height =>
    pass (.opened height)
    let items ← ofActivity (request (.openStream Chain.Event.streamedTypes height))
    markedItems settings items

def markedSupervise : (rounds : Nat) → Marked Milestone Failure Unit
  | 0 => pure ()
  | rounds + 1 => (markedConsume settings).attempt fun result => do
      pass (.ended result.toBool)
      markedSupervise rounds

theorem erase_markedItem (item : Except Chain.Failure Chain.Batch) :
    (markedItem settings item).erase = consumeItem settings item := by
  cases item with
  | error failure => exact Marked.erase_ofActivity _
  | ok batch =>
      have staged : consumeItem settings (.ok batch) =
          (handleEvents settings batch (batch.transfers settings.contract) >>= fun _ =>
            discard (recordBlock settings batch.height batch)).mapFailure
              (Failure.within ("failed to handle block " ++ toString batch.height)) >>= fun _ =>
            moveOn settings batch.height := rfl
      rw [staged, Activity.mapFailure_bind, Activity.bind_assoc]
      simp only [markedItem, Marked.erase_bind, Marked.erase_ofActivity]
      rfl

theorem erase_markedItems (items : List (Except Chain.Failure Chain.Batch)) :
    (markedItems settings items).erase = forEach (consumeItem settings) items := by
  induction items with
  | nil => rfl
  | cons item rest ih =>
      rw [markedItems, Marked.erase_bind, erase_markedItem, ih]
      rfl

theorem erase_markedConsume : (markedConsume settings).erase = consume settings := by
  rw [markedConsume, Marked.erase_bind, Marked.erase_ofActivity]
  apply congrArg (Bind.bind (openCursor settings))
  funext cursor
  cases next : Height.next? (Height.shown cursor.height) with
  | none => exact Marked.erase_ofActivity _
  | some height =>
      simp only [Marked.erase_bind, Marked.erase_ofActivity, erase_markedItems]
      rfl

theorem erase_markedSupervise (rounds : Nat) :
    (markedSupervise settings rounds).erase = supervise settings rounds := by
  induction rounds with
  | zero => rfl
  | succ rounds ih =>
      rw [markedSupervise, Marked.erase_attempt, erase_markedConsume]
      apply congrArg (Activity.attempt (consume settings))
      funext result
      exact ih

end Marks

section Quiet

open Activity

def Quiet : Request → Prop
  | .storage statement => statement.writesCursor = false
  | _ => True

theorem quiet_of_attends (request : Request) (attends : Attends request) : Quiet request := by
  cases request with
  | storage statement => cases statement <;> first | rfl | cases attends
  | _ => trivial

theorem quiet_of_enters (request : Request) (enters : Enters request) : Quiet request := by
  cases request with
  | storage statement => cases statement <;> first | rfl | cases enters
  | _ => trivial

end Quiet

end Coverage

end Settlement
