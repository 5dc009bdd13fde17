import Settlement.WorkerPool.Pool

/-!
Any number of workers that share a pool. An action moves the clock, raises the ready
signal or takes one worker one step further; workers interleave between actions and
nowhere else. What a load reads and how processing ends come with the action, so an
action list is one run under one choice of both.
-/

namespace Settlement.WorkerPool

inductive Outcome where
  | success
  | failure
  | panic
  deriving DecidableEq

inductive Phase (δ ε : Type) where
  | waiting
  | idle
  | loading
  /-- Storage was read; the pool does not know yet. -/
  | loaded (result : Except ε (List δ))
  | handed (directive : δ)
  | processing (directive : δ)
  | processed (directive : δ) (outcome : Outcome)
  | reported (directive : δ)
  | resting (wakeAt : Nat)

inductive Event (δ ε : Type) where
  | loadStarted (time : Nat)
  | loaded (time : Nat) (result : Except ε (List δ))
  | handed (time : Nat) (directive : δ)
  | started (time : Nat) (directive : δ)
  | reported (time : Nat) (directive : δ) (outcome : Outcome)
  | released (time : Nat) (directive : δ)

structure System (δ ι ε : Type) where
  isReady : Bool
  now : Nat
  pool : Pool δ ι
  workers : List (Phase δ ε)
  /-- Newest first. -/
  history : List (Event δ ε)

inductive Action (δ ε : Type) where
  | markReady
  | wait (time : Nat)
  | wake (worker : Nat)
  | order (worker : Nat)
  | read (worker : Nat) (result : Except ε (List δ))
  | settle (worker : Nat)
  | start (worker : Nat)
  | finish (worker : Nat) (outcome : Outcome)
  | report (worker : Nat)
  | release (worker : Nat)

namespace System

variable {δ ι ε : Type} [DecidableEq ι] [Identified δ ι]

def new (workers : Nat) : System δ ι ε :=
  ⟨false, 0, .empty, List.replicate (max workers 1) .waiting, []⟩

def setPhase (worker : Nat) (phase : Phase δ ε) (system : System δ ι ε) : System δ ι ε :=
  { system with workers := system.workers.set worker phase }

def record (event : Event δ ε) (system : System δ ι ε) : System δ ι ε :=
  { system with history := event :: system.history }

def hand (worker : Nat) (directive : δ) (system : System δ ι ε) : System δ ι ε :=
  (system.setPhase worker (.handed directive)).record (.handed system.now directive)

def rest (delay worker : Nat) (system : System δ ι ε) : System δ ι ε :=
  system.setPhase worker (.resting (system.now + delay))

def followOrder (delay worker : Nat) (system : System δ ι ε) : System δ ι ε :=
  let (order, pool) := system.pool.order system.now delay
  let system := { system with pool }
  match order with
  | .work directive => system.hand worker directive
  | .load => (system.setPhase worker .loading).record (.loadStarted system.now)
  | .rest => system.rest delay worker

def settleLoad (delay worker : Nat) (result : Except ε (List δ)) (system : System δ ι ε) :
    System δ ι ε :=
  let (directive?, pool) := system.pool.settle result
  let system := { system with pool }.record (.loaded system.now result)
  match directive? with
  | some directive => system.hand worker directive
  | none => system.rest delay worker

def workerStep? (delay worker : Nat) (phase : Phase δ ε) (action : Action δ ε)
    (system : System δ ι ε) : Option (System δ ι ε) :=
  match action, phase with
  | .wake _, .waiting => if system.isReady then some (system.setPhase worker .idle) else none
  | .wake _, .resting wakeAt =>
      if wakeAt ≤ system.now then some (system.setPhase worker .idle) else none
  | .order _, .idle => some (system.followOrder delay worker)
  | .read _ result, .loading => some (system.setPhase worker (.loaded result))
  | .settle _, .loaded result => some (system.settleLoad delay worker result)
  | .start _, .handed directive =>
      some ((system.setPhase worker (.processing directive)).record
        (.started system.now directive))
  | .finish _ outcome, .processing directive =>
      some (system.setPhase worker (.processed directive outcome))
  | .report _, .processed directive outcome =>
      some ((system.setPhase worker (.reported directive)).record
        (.reported system.now directive outcome))
  | .release _, .reported directive =>
      some (({ system with pool := system.pool.release (idOf directive) }.setPhase worker
        .idle).record (.released system.now directive))
  | _, _ => none

end System

def Action.worker? {δ ε : Type} : Action δ ε → Option Nat
  | .markReady | .wait _ => none
  | .wake worker | .order worker | .read worker _ | .settle worker | .start worker
  | .finish worker _ | .report worker | .release worker => some worker

namespace System

variable {δ ι ε : Type} [DecidableEq ι] [Identified δ ι]

def step? (delay : Nat) (action : Action δ ε) (system : System δ ι ε) :
    Option (System δ ι ε) :=
  match action with
  | .markReady => some { system with isReady := true }
  | .wait time => if system.now ≤ time then some { system with now := time } else none
  | action =>
      action.worker?.bind fun worker =>
        system.workers[worker]?.bind fun phase =>
          system.workerStep? delay worker phase action

inductive Reachable (delay workers : Nat) : System δ ι ε → Prop where
  | start : Reachable delay workers (.new workers)
  | step {system after : System δ ι ε} (action : Action δ ε) :
      Reachable delay workers system → system.step? delay action = some after →
      Reachable delay workers after

end System

end Settlement.WorkerPool
