import Settlement.Chain.Search
import Settlement.Store.Height

/-!
The producer of batches. It asks the node for the latest height, searches every height
up to it, hands each batch over in a buffer of its own, and sleeps at the chain's head
before it asks again. The first failure is handed over like a batch and is the last
item. Whether the receiver is gone shows when an item is handed over and at the head.
-/

namespace Settlement.Chain

inductive Feed.Position where
  | polling
  | searching (latest : Nat) (search : Search)
  | sending (latest : Nat) (batch : Batch)
  | failing (failure : Failure)
  | sleeping
  | ended

structure Feed where
  types : List String
  next : Nat
  position : Feed.Position
  /-- What is handed over and not received, oldest first. -/
  buffer : List (Except Failure Batch)
  isDropped : Bool
  received : List (Except Failure Batch)
  /-- The calls made so far, newest first. -/
  calls : List Rpc.Call
  told : List Nat

namespace Feed

def capacity : Nat := 16

def statusCall : Rpc.Call := ⟨"status", []⟩

def latestHeight (answer : Rpc.Answer) : Except Failure Nat :=
  answer.payload >>= fun status =>
    match status.path? ["sync_info", "latest_block_height"] >>= height? with
    | some height => .ok height
    | none => .error (.malformed "status has no latest_block_height")

def start (types : List String) (height : Nat) : Feed :=
  ⟨types, height, .polling, [], false, [], [statusCall], []⟩

variable (feed : Feed)

def moveTo (position : Position) : Feed := { feed with position }

def askFor (call : Rpc.Call) : Feed := { feed with calls := call :: feed.calls }

def proceed (latest : Nat) : Feed :=
  if feed.next ≤ latest then
    let search := Search.start feed.types feed.next
    (feed.moveTo (.searching latest search)).askFor search.call
  else feed.moveTo (if feed.isDropped then .ended else .sleeping)

def hearStatus (answer : Rpc.Answer) : Feed :=
  match latestHeight answer with
  | .ok latest => { feed with told := latest :: feed.told }.proceed latest
  | .error failure => feed.moveTo (.failing failure)

def hearPage (latest : Nat) (search : Search) (answer : Rpc.Answer) : Feed :=
  match search.next answer with
  | .more search => (feed.moveTo (.searching latest search)).askFor search.call
  | .done (.ok batch) => feed.moveTo (.sending latest batch)
  | .done (.error failure) => feed.moveTo (.failing failure)

def hear? (answer : Rpc.Answer) : Option Feed :=
  match feed.position with
  | .polling => some (feed.hearStatus answer)
  | .searching latest search => some (feed.hearPage latest search answer)
  | _ => none

def handOver? (item : Except Failure Batch) (after : Feed → Feed) : Option Feed :=
  if feed.isDropped then some (feed.moveTo .ended)
  else if feed.buffer.length < capacity then
    some (after { feed with buffer := feed.buffer ++ [item] })
  else none

/-- The end that follows the height 2^64 - 1 stands for the overflow of the next height, at which
the producer panics or, where the build lets numbers wrap, starts over from zero. -/
def advance (latest : Nat) : Feed :=
  match Height.next? feed.next with
  | some next => { feed with next }.proceed latest
  | none => feed.moveTo .ended

def deliver? : Option Feed :=
  match feed.position with
  | .sending latest batch => feed.handOver? (.ok batch) fun feed => feed.advance latest
  | .failing failure => feed.handOver? (.error failure) fun feed => feed.moveTo .ended
  | _ => none

def receive? : Option Feed :=
  match feed.buffer with
  | item :: rest => some { feed with buffer := rest, received := feed.received ++ [item] }
  | [] => none

def wake? : Option Feed :=
  match feed.position with
  | .sleeping => some ((feed.moveTo .polling).askFor statusCall)
  | _ => none

inductive Action where
  | answer (answer : Rpc.Answer)
  | deliver
  | receive
  /-- The receiver goes away, and with it all that it has not received. -/
  | drop
  | wake

def step? : Action → Option Feed
  | .answer answer => feed.hear? answer
  | .deliver => feed.deliver?
  | .receive => feed.receive?
  | .drop => some { feed with isDropped := true, buffer := [] }
  | .wake => feed.wake?

inductive Reachable (types : List String) (height : Nat) : Feed → Prop where
  | start : Reachable types height (.start types height)
  | step {feed after : Feed} (action : Action) : Reachable types height feed →
      feed.step? action = some after → Reachable types height after

def isEnded : Bool :=
  match feed.position with
  | .ended => true
  | _ => false

/-- What happens next if the receiver takes every item as soon as it can and goes away
after the given number of them. -/
def eagerAction (limit? : Option Nat) (answer : Rpc.Call → Rpc.Answer) : Option Action :=
  if !feed.isDropped && limit? = some feed.received.length then some .drop
  else if !feed.buffer.isEmpty then some .receive
  else
    match feed.position, feed.calls with
    | .polling, call :: _ | .searching .., call :: _ => some (.answer (answer call))
    | .sending .., _ | .failing _, _ => some .deliver
    | .sleeping, _ => some .wake
    | _, _ => none

def runEagerly (limit? : Option Nat) (answer : Rpc.Call → Rpc.Answer) : (fuel : Nat) → Feed → Feed
  | 0, feed => feed
  | fuel + 1, feed =>
    match feed.eagerAction limit? answer >>= feed.step? with
    | some after => runEagerly limit? answer fuel after
    | none => feed

end Feed

end Settlement.Chain
