import Settlement.WorkerPool.System

/-!
A run of the workers on scripted jobs and a clock of its own. The clock stands still
while any worker can go on, and then jumps to the next time at which one can. Workers
go on in the order in which they became able to, each up to where it has to wait.
-/

namespace Settlement.WorkerPool

structure Job where
  id : Nat
  span : Nat
  /-- The outcome of each attempt; the last one repeats, and no outcome at all is a success. -/
  outcomes : List Outcome
  dueAt : Nat
  deriving DecidableEq

instance : Identified Job Nat := ⟨Job.id⟩

structure Script where
  workers : Nat
  delay : Nat
  readyAt? : Option Nat
  stopAt : Nat
  loadSpan : Nat
  failingLoads : List Nat
  jobs : List Job

abbrev JobSystem := System Job Nat Unit
abbrev JobEvent := Event Job Unit

structure Timeline where
  system : JobSystem
  running : List Nat
  sleeping : List (Nat × Nat)
  succeeded : List Nat

def JobEvent.isStart (id : Nat) : JobEvent → Bool
  | .started _ job => job.id = id
  | _ => false

def JobEvent.isLoad : JobEvent → Bool
  | .loaded .. => true
  | _ => false

def attempts (id : Nat) (history : List JobEvent) : Nat := history.countP (JobEvent.isStart id)

def Job.outcome (job : Job) (attempt : Nat) : Outcome :=
  (job.outcomes[attempt - 1]? <|> job.outcomes.getLast?).getD .success

namespace Script

def isReady (script : Script) : Bool := script.readyAt?.any (· ≤ script.stopAt)

def loadResult (script : Script) (timeline : Timeline) : Except Unit (List Job) :=
  if timeline.system.history.countP JobEvent.isLoad + 1 ∈ script.failingLoads then .error ()
  else .ok (script.jobs.filter fun job =>
    job.dueAt ≤ timeline.system.now && !timeline.succeeded.contains job.id)

def nextAction (script : Script) (timeline : Timeline) (worker : Nat) :
    Phase Job Unit → Action Job Unit
  | .waiting | .resting _ => .wake worker
  | .idle => .order worker
  | .loading => .read worker (script.loadResult timeline)
  | .loaded _ => .settle worker
  | .handed _ => .start worker
  | .processing job => .finish worker (job.outcome (attempts job.id timeline.system.history))
  | .processed .. => .report worker
  | .reported _ => .release worker

end Script

namespace Timeline

def start (script : Script) (readyAt : Nat) : Timeline :=
  let system : JobSystem := { System.new script.workers with isReady := true, now := readyAt }
  ⟨system, List.range system.workers.length, [], []⟩

def goOn (worker : Nat) (timeline : Timeline) : Timeline :=
  { timeline with running := worker :: timeline.running }

def queueUp (worker : Nat) (timeline : Timeline) : Timeline :=
  { timeline with running := timeline.running ++ [worker] }

def sleep (wakeAt worker : Nat) (timeline : Timeline) : Timeline :=
  { timeline with sleeping := timeline.sleeping ++ [(wakeAt, worker)] }

def sleepFor (span worker : Nat) (timeline : Timeline) : Timeline :=
  if span = 0 then timeline.goOn worker else timeline.sleep (timeline.system.now + span) worker

/-- When a worker that has just entered a phase can go on. Processing has a task of its
own, so its start and its end each let the others go first. -/
def schedule (script : Script) (worker : Nat) (timeline : Timeline) :
    Phase Job Unit → Timeline
  | .waiting => timeline
  | .idle | .loaded _ | .reported _ => timeline.goOn worker
  | .loading => timeline.sleepFor script.loadSpan worker
  | .handed _ | .processed .. => timeline.queueUp worker
  | .processing job => timeline.sleepFor job.span worker
  | .resting wakeAt => timeline.sleepFor (wakeAt - timeline.system.now) worker

def succeed (timeline : Timeline) : Phase Job Unit → Timeline
  | .processed job .success => { timeline with succeeded := job.id :: timeline.succeeded }
  | _ => timeline

def advance (script : Script) (worker : Nat) (timeline : Timeline) : Option Timeline := do
  let before ← timeline.system.workers[worker]?
  let system ← timeline.system.step? script.delay (script.nextAction timeline worker before)
  let phase ← system.workers[worker]?
  let timeline := { timeline with system }
  return (timeline.succeed phase).schedule script worker phase

def jump (script : Script) (timeline : Timeline) : Option Timeline := do
  let time ← (timeline.sleeping.map Prod.fst).min?
  if time < script.stopAt then
    let system ← timeline.system.step? script.delay (.wait time)
    let (due, sleeping) := timeline.sleeping.partition (·.1 = time)
    return { timeline with system, sleeping, running := due.map Prod.snd }
  else none

def step? (script : Script) (timeline : Timeline) : Option Timeline :=
  match timeline.running with
  | worker :: running => { timeline with running }.advance script worker
  | [] => timeline.jump script

def run (script : Script) : (fuel : Nat) → Timeline → Timeline
  | 0, timeline => timeline
  | fuel + 1, timeline =>
      match timeline.step? script with
      | some timeline => run script fuel timeline
      | none => timeline

end Timeline

namespace Script

/-- Every step of a worker is within its order, its load or one of its directives. If the delay
or a load takes time, no worker ends two loads at one time, so this many steps reach the stop. -/
def enoughSteps (script : Script) : Nat :=
  (script.stopAt + 1) * (8 * (script.workers + 2) * (script.jobs.length + 1) + 2)

def run (script : Script) : List JobEvent × List Nat :=
  match script.readyAt? with
  | some readyAt =>
      if readyAt < script.stopAt then
        let timeline := (Timeline.start script readyAt).run script script.enoughSteps
        (timeline.system.history, timeline.succeeded)
      else ([], [])
  | none => ([], [])

def pending (script : Script) (succeeded : List Nat) : List Nat :=
  (script.jobs.map Job.id).filter fun id => !succeeded.contains id

end Script

end Settlement.WorkerPool
