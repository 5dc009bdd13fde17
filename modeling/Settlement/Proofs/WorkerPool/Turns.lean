import Mathlib.Data.List.Induction
import Settlement.WorkerPool.System

/-!
All that one step of the workers can do. A step raises the signal, moves the clock or is a turn
of one worker, and a turn changes the worker's phase and the pool and tells the history of it.
What the steps of a run give is gathered in their order, so a fact about a run follows from one
about a step.
-/

namespace Settlement.WorkerPool

variable {δ ι ε : Type} [DecidableEq ι] [Identified δ ι]

theorem filterMap_set {α β : Type} (view : α → Option β) {items : List α} {index : Nat}
    {before : α} (there : items[index]? = some before) :
    ∃ others, (items.filterMap view).Perm ((view before).toList ++ others) ∧
      ∀ next, ((items.set index next).filterMap view).Perm ((view next).toList ++ others) := by
  have cons : ∀ (item : α) (rest : List α),
      (item :: rest).filterMap view = (view item).toList ++ rest.filterMap view := by
    intro item rest
    rw [List.filterMap_cons]
    cases view item <;> rfl
  induction items generalizing index with
  | nil => cases there
  | cons item rest ih =>
      cases index with
      | zero =>
          obtain rfl : item = before := Option.some.inj there
          refine ⟨rest.filterMap view, ?_, fun next => ?_⟩
          · rw [cons]
          · rw [List.set_cons_zero, cons]
      | succ index =>
          obtain ⟨others, old, new⟩ := ih there
          refine ⟨(view item).toList ++ others, ?_, fun next => ?_⟩
          · rw [cons]
            exact (old.append_left _).trans (List.perm_append_comm_assoc _ _ _)
          · rw [List.set_cons_succ, cons]
            exact ((new next).append_left _).trans (List.perm_append_comm_assoc _ _ _)

def Pool.receive (result : Except ε (List δ)) (pool : Pool δ ι) : Pool δ ι :=
  match result with
  | .ok directives => pool.enqueue directives
  | .error _ => pool

namespace System

variable {delay workers : Nat} {first system after : System δ ι ε} {action : Action δ ε}
  {actions : List (Action δ ε)}

/-- A worker's phase before and after its turn, the pool then, and what is told of it. -/
inductive Turn (delay worker : Nat) (system : System δ ι ε) :
    Action δ ε → Phase δ ε → Phase δ ε → Pool δ ι → List (Event δ ε) → Prop where
  | enter (ready : system.isReady = true) :
      Turn delay worker system (.wake worker) .waiting .idle system.pool []
  | wake {wakeAt : Nat} (due : wakeAt ≤ system.now) :
      Turn delay worker system (.wake worker) (.resting wakeAt) .idle system.pool []
  | take {directive : δ} {queue : List δ} (head : system.pool.queue = directive :: queue) :
      Turn delay worker system (.order worker) .idle (.handed directive)
        { system.pool with queue } [.handed system.now directive]
  | load (empty : system.pool.queue = []) (due : system.pool.nextLoadAt ≤ system.now) :
      Turn delay worker system (.order worker) .idle .loading
        { system.pool with nextLoadAt := system.now + delay } [.loadStarted system.now]
  | backOff (empty : system.pool.queue = []) (early : system.now < system.pool.nextLoadAt) :
      Turn delay worker system (.order worker) .idle (.resting (system.now + delay))
        system.pool []
  | read {result : Except ε (List δ)} :
      Turn delay worker system (.read worker result) .loading (.loaded result) system.pool []
  | receive {result : Except ε (List δ)} {directive : δ} {queue : List δ}
      (head : (system.pool.receive result).queue = directive :: queue) :
      Turn delay worker system (.settle worker) (.loaded result) (.handed directive)
        { system.pool.receive result with queue }
        [.handed system.now directive, .loaded system.now result]
  | receiveNone {result : Except ε (List δ)} (empty : (system.pool.receive result).queue = []) :
      Turn delay worker system (.settle worker) (.loaded result)
        (.resting (system.now + delay)) (system.pool.receive result) [.loaded system.now result]
  | start {directive : δ} :
      Turn delay worker system (.start worker) (.handed directive) (.processing directive)
        system.pool [.started system.now directive]
  | finish {directive : δ} {outcome : Outcome} :
      Turn delay worker system (.finish worker outcome) (.processing directive)
        (.processed directive outcome) system.pool []
  | report {directive : δ} {outcome : Outcome} :
      Turn delay worker system (.report worker) (.processed directive outcome)
        (.reported directive) system.pool [.reported system.now directive outcome]
  | release {directive : δ} :
      Turn delay worker system (.release worker) (.reported directive) .idle
        (system.pool.release (idOf directive)) [.released system.now directive]

inductive Stepped (delay : Nat) (system : System δ ι ε) : Action δ ε → System δ ι ε → Prop where
  | markReady : Stepped delay system .markReady { system with isReady := true }
  | wait {time : Nat} (later : system.now ≤ time) :
      Stepped delay system (.wait time) { system with now := time }
  | turn {worker : Nat} {action : Action δ ε} {before next : Phase δ ε} {pool : Pool δ ι}
      {events : List (Event δ ε)} (there : system.workers[worker]? = some before)
      (turn : Turn delay worker system action before next pool events) :
      Stepped delay system action { system with
        pool
        workers := system.workers.set worker next
        history := events ++ system.history }

theorem followOrder_stepped {worker : Nat} (there : system.workers[worker]? = some .idle) :
    Stepped delay system (.order worker) (system.followOrder delay worker) := by
  obtain ⟨isReady, now, ⟨queue, active, nextLoadAt⟩, workers, history⟩ := system
  cases queue with
  | cons directive queue => exact .turn there (.take rfl)
  | nil =>
      simp only [followOrder, Pool.order]
      by_cases early : now < nextLoadAt
      · rw [if_pos early]
        exact .turn there (.backOff rfl early)
      · rw [if_neg early]
        exact .turn there (.load rfl (Nat.le_of_not_lt early))

theorem settleLoad_stepped {worker : Nat} {result : Except ε (List δ)}
    (there : system.workers[worker]? = some (.loaded result)) :
    Stepped delay system (.settle worker) (system.settleLoad delay worker result) := by
  cases head : (system.pool.receive result).queue with
  | nil =>
      have settled : system.pool.settle result = (none, system.pool.receive result) := by
        cases result <;> simp_all [Pool.settle, Pool.receive]
      rw [settleLoad, settled]
      exact .turn there (.receiveNone head)
  | cons directive queue =>
      have settled : system.pool.settle result =
          (some directive, { system.pool.receive result with queue }) := by
        cases result <;> simp_all [Pool.settle, Pool.receive]
      rw [settleLoad, settled]
      exact .turn there (.receive head)

theorem workerStep_stepped {worker : Nat} {before : Phase δ ε}
    (there : system.workers[worker]? = some before) (own : action.worker? = some worker)
    (stepped : system.workerStep? delay worker before action = some after) :
    system.Stepped delay action after := by
  unfold workerStep? at stepped
  split at stepped
  case h_1 =>
    cases own
    split at stepped <;> cases stepped
    exact .turn there (.enter ‹_›)
  case h_2 =>
    cases own
    split at stepped <;> cases stepped
    exact .turn there (.wake ‹_›)
  case h_10 => cases stepped
  all_goals
    cases stepped
    cases own
  · exact followOrder_stepped there
  · exact .turn there .read
  · exact settleLoad_stepped there
  · exact .turn there .start
  · exact .turn there .finish
  · exact .turn there .report
  · exact .turn there .release

theorem step_stepped (stepped : system.step? delay action = some after) :
    system.Stepped delay action after := by
  cases action with
  | markReady =>
      cases stepped
      exact .markReady
  | wait time =>
      simp only [step?] at stepped
      split at stepped <;> cases stepped
      exact .wait ‹_›
  | _ =>
      obtain ⟨before, there, stepped⟩ := Option.bind_eq_some_iff.mp stepped
      exact workerStep_stepped there rfl stepped

theorem Turn.own {worker : Nat} {before next : Phase δ ε} {pool : Pool δ ι}
    {events : List (Event δ ε)} (turn : Turn delay worker system action before next pool events) :
    action.worker? = some worker := by
  cases turn <;> rfl

theorem step_workers_length (stepped : system.step? delay action = some after) :
    after.workers.length = system.workers.length := by
  cases step_stepped stepped with
  | markReady | wait => rfl
  | turn there turn => exact List.length_set

theorem step_others {worker : Nat} (other : action.worker? ≠ some worker)
    (stepped : system.step? delay action = some after) :
    after.workers[worker]? = system.workers[worker]? := by
  cases step_stepped stepped with
  | markReady | wait => rfl
  | turn there turn =>
      refine List.getElem?_set_ne ?_
      rintro rfl
      exact other turn.own

def run? (delay : Nat) (actions : List (Action δ ε)) (system : System δ ι ε) :
    Option (System δ ι ε) :=
  actions.foldlM (fun system action => system.step? delay action) system

theorem run?_append (done more : List (Action δ ε)) (system : System δ ι ε) :
    system.run? delay (done ++ more) = (system.run? delay done).bind (run? delay more) :=
  List.foldlM_append

theorem run?_snoc (ran : first.run? delay actions = some system) :
    first.run? delay (actions ++ [action]) = system.step? delay action := by
  rw [run?_append, ran, Option.bind_some]
  exact bind_pure _

theorem run_induction (holds : List (Action δ ε) → System δ ι ε → Prop) (start : holds [] first)
    (step : ∀ done system action after, first.run? delay done = some system → holds done system →
      system.step? delay action = some after → holds (done ++ [action]) after)
    (ran : first.run? delay actions = some system) : holds actions system := by
  induction actions using List.reverseRecOn generalizing system with
  | nil =>
      cases ran
      exact start
  | append_singleton done action ih =>
      obtain ⟨middle, before, stepped⟩ := Option.bind_eq_some_iff.mp (run?_append done _ _ ▸ ran)
      refine step done middle action system before (ih before) ?_
      rw [← run?_snoc before, run?_append, before]
      exact stepped

theorem Reachable.run (reachable : Reachable delay workers system)
    (ran : system.run? delay actions = some after) : Reachable delay workers after :=
  run_induction (fun _ => Reachable delay workers) reachable
    (fun _ _ action _ _ reached stepped => .step action reached stepped) ran

theorem run_workers_length (ran : system.run? delay actions = some after) :
    after.workers.length = system.workers.length :=
  run_induction (fun _ after => after.workers.length = system.workers.length) rfl
    (fun _ _ _ _ _ same stepped => (step_workers_length stepped).trans same) ran

theorem run_others {worker : Nat} (others : ∀ action ∈ actions, action.worker? ≠ some worker)
    (ran : system.run? delay actions = some after) :
    after.workers[worker]? = system.workers[worker]? := by
  refine run_induction (fun done after =>
    (∀ action ∈ done, action.worker? ≠ some worker) →
      after.workers[worker]? = system.workers[worker]?) (fun _ => rfl) ?_ ran others
  intro done middle action after _ same stepped others
  rw [step_others (others action (by simp)) stepped]
  exact same fun earlier member => others earlier (List.mem_append_left _ member)

def gather {β : Type} (give : System δ ι ε → Action δ ε → List β) (delay : Nat) :
    List (Action δ ε) → System δ ι ε → List β
  | [], _ => []
  | action :: rest, system =>
      match system.step? delay action with
      | some after => give system action ++ gather give delay rest after
      | none => []

section Gather

variable {β : Type} {give : System δ ι ε → Action δ ε → List β}

theorem gather_append {done more : List (Action δ ε)} (ran : first.run? delay done = some system) :
    gather give delay (done ++ more) first =
      gather give delay done first ++ gather give delay more system := by
  induction done generalizing first with
  | nil =>
      cases ran
      rfl
  | cons action rest ih =>
      obtain ⟨middle, stepped, ran⟩ := Option.bind_eq_some_iff.mp ran
      simp only [List.cons_append, gather, stepped, ih ran, List.append_assoc]

theorem gather_snoc (ran : first.run? delay actions = some system)
    (stepped : system.step? delay action = some after) :
    gather give delay (actions ++ [action]) first =
      gather give delay actions first ++ give system action := by
  rw [gather_append ran]
  simp only [gather, stepped, List.append_nil]

theorem mem_gather {item : β} (given : item ∈ gather give delay actions first) :
    ∃ done action more middle, actions = done ++ action :: more ∧
      first.run? delay done = some middle ∧ item ∈ give middle action := by
  induction actions generalizing first with
  | nil => cases given
  | cons action rest ih =>
      simp only [gather] at given
      cases stepped : first.step? delay action with
      | none => simp [stepped] at given
      | some after =>
          simp only [stepped, List.mem_append] at given
          rcases given with now | later
          · exact ⟨[], action, rest, first, rfl, rfl, now⟩
          · obtain ⟨done, last, more, middle, rfl, ran, given⟩ := ih later
            refine ⟨action :: done, last, more, middle, rfl, ?_, given⟩
            exact Option.bind_eq_some_iff.mpr ⟨after, stepped, ran⟩

end Gather

end System

end Settlement.WorkerPool
