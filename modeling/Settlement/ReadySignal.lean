/-!
A signal that is raised once, and any number of parties that wait for it. To raise it
takes two steps: the flag is set, then everyone is notified. A waiter takes a ticket
from the notifier, then looks at the flag, and only if that was not set does it park;
others may go on between any two of these steps. When a ticket is awake is up to the
notifier.
-/

namespace Settlement.ReadySignal

inductive Call where
  | giveTicket
  | notifyAll
  deriving DecidableEq

/-- Whether a ticket is awake after some calls, the oldest first. A ticket is the number
of calls before the one that gave it out. -/
structure Notifier where
  isAwake (calls : List Call) (ticket : Nat) : Bool

namespace Notifier

def WakesAll (notifier : Notifier) : Prop :=
  ∀ (calls : List Call) (ticket : Nat), calls[ticket]? = some .giveTicket →
    .notifyAll ∈ calls.drop ticket → notifier.isAwake calls ticket = true

def strict : Notifier where
  isAwake calls ticket := (calls.drop ticket).contains .notifyAll

end Notifier

inductive Waiter where
  | outside
  | holding (ticket : Nat)
  | refused (ticket : Nat)
  | parked (ticket : Nat)
  | released
  deriving DecidableEq

inductive Marker where
  | waiting
  | flagged
  | finished
  deriving DecidableEq

structure State where
  isRaised : Bool
  calls : List Call
  marker : Marker
  waiters : List Waiter
  deriving DecidableEq

inductive Action where
  | setFlag
  | notifyAll
  | takeTicket (waiter : Nat)
  | look (waiter : Nat)
  | park (waiter : Nat)
  | wake (waiter : Nat)
  deriving DecidableEq

namespace State

def new (waiters : Nat) : State := ⟨false, [], .waiting, List.replicate waiters .outside⟩

variable (notifier : Notifier) (state : State)

def call (call : Call) : State := { state with calls := state.calls ++ [call] }

def setWaiter (index : Nat) (waiter : Waiter) : State :=
  { state with waiters := state.waiters.set index waiter }

/-- A waiter that was woken starts over, as it may have been woken for nothing. -/
def step? : Action → Option State
  | .setFlag =>
    if state.marker = .waiting then some { state with isRaised := true, marker := .flagged }
    else none
  | .notifyAll =>
    if state.marker = .flagged then some { state.call .notifyAll with marker := .finished }
    else none
  | .takeTicket index =>
    match state.waiters[index]? with
    | some .outside =>
        some ((state.call .giveTicket).setWaiter index (.holding state.calls.length))
    | _ => none
  | .look index =>
    match state.waiters[index]? with
    | some (.holding ticket) =>
        some (state.setWaiter index (if state.isRaised then .released else .refused ticket))
    | _ => none
  | .park index =>
    match state.waiters[index]? with
    | some (.refused ticket) => some (state.setWaiter index (.parked ticket))
    | _ => none
  | .wake index =>
    match state.waiters[index]? with
    | some (.parked ticket) =>
        if notifier.isAwake state.calls ticket then some (state.setWaiter index .outside)
        else none
    | _ => none

inductive Reachable (waiters : Nat) : State → Prop where
  | start : Reachable waiters (.new waiters)
  | step {state after : State} (action : Action) : Reachable waiters state →
      state.step? notifier action = some after → Reachable waiters after

end State

end Settlement.ReadySignal
