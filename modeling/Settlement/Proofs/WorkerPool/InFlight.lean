import Mathlib.Data.List.Nodup
import Settlement.Proofs.WorkerPool.Turns
import Settlement.WorkerPool.Timeline

/-!
Directives on their way through the pool. A directive is queued, or a worker has taken it and
has not yet released it, and no id is in two places at once. Every critical section keeps
this balance, so it holds whatever the loads return and however the workers interleave.
-/

namespace Settlement.WorkerPool

variable {δ ι ε : Type}

def Phase.held? : Phase δ ε → Option δ
  | .handed directive | .processing directive | .processed directive _ | .reported directive =>
      some directive
  | .waiting | .idle | .loading | .loaded _ | .resting _ => none

def System.held (system : System δ ι ε) : List δ := system.workers.filterMap Phase.held?

namespace Pool

variable [Identified δ ι] {pool : Pool δ ι} {held other : List δ} {directive : δ}

/-- No id occurs twice among the queued and the held directives, and the active ids are
theirs. -/
structure Balanced (pool : Pool δ ι) (held : List δ) : Prop where
  distinct : ((pool.queue ++ held).map idOf).Nodup
  active : ∀ id, id ∈ pool.active ↔ id ∈ (pool.queue ++ held).map idOf

theorem Balanced.perm (balanced : pool.Balanced held) (same : held.Perm other) :
    pool.Balanced other := by
  have whole := (same.append_left pool.queue).map idOf
  constructor
  · exact whole.nodup_iff.mp balanced.distinct
  · intro id
    rw [balanced.active, whole.mem_iff]

theorem Balanced.same {after : Pool δ ι} (balanced : pool.Balanced held)
    (queue : after.queue = pool.queue) (active : after.active = pool.active) :
    after.Balanced held := by
  constructor
  · rw [queue]
    exact balanced.distinct
  · rw [queue, active]
    exact balanced.active

theorem Balanced.take {after : Pool δ ι} (balanced : pool.Balanced held)
    (queue : pool.queue = directive :: after.queue) (active : after.active = pool.active) :
    after.Balanced (directive :: held) := by
  have whole : (pool.queue ++ held).Perm (after.queue ++ directive :: held) := by
    rw [queue]
    exact List.perm_middle.symm
  constructor
  · exact (whole.map idOf).nodup_iff.mp balanced.distinct
  · intro id
    rw [active, balanced.active, (whole.map idOf).mem_iff]

variable [DecidableEq ι]

theorem Balanced.enqueue (balanced : pool.Balanced held) (directives : List δ) :
    (pool.enqueue directives).Balanced held := by
  induction directives generalizing pool with
  | nil => exact balanced
  | cons directive rest ih =>
      unfold Pool.enqueue
      by_cases known : idOf directive ∈ pool.active
      · rw [if_pos known]
        exact ih balanced
      · rw [if_neg known]
        apply ih
        have whole : ((pool.queue ++ [directive]) ++ held).Perm
            (directive :: (pool.queue ++ held)) := by
          rw [List.append_assoc]
          exact List.perm_middle
        have fresh := mt (balanced.active _).mpr known
        constructor
        · exact (whole.map idOf).nodup_iff.mpr (List.nodup_cons.mpr ⟨fresh, balanced.distinct⟩)
        · intro id
          rw [(whole.map idOf).mem_iff, List.map_cons, List.mem_cons, List.mem_cons,
            balanced.active]

theorem Balanced.release (balanced : pool.Balanced (directive :: held)) :
    (pool.release (idOf directive)).Balanced held := by
  have whole : (pool.queue ++ directive :: held).Perm (directive :: (pool.queue ++ held)) :=
    List.perm_middle
  have distinct := (whole.map idOf).nodup_iff.mp balanced.distinct
  obtain ⟨fresh, rest⟩ := List.nodup_cons.mp distinct
  constructor
  · exact rest
  · intro id
    simp only [Pool.release, List.mem_filter, decide_eq_true_eq]
    rw [balanced.active, (whole.map idOf).mem_iff, List.map_cons, List.mem_cons]
    constructor
    · rintro ⟨rfl | there, other⟩
      · exact (other rfl).elim
      · exact there
    · intro there
      refine ⟨.inr there, ?_⟩
      rintro rfl
      exact fresh there

theorem queue_enqueue_subset (directives : List δ) (pool : Pool δ ι) :
    pool.queue ⊆ (pool.enqueue directives).queue := by
  induction directives generalizing pool with
  | nil => exact fun _ => id
  | cons directive rest ih =>
      unfold Pool.enqueue
      split
      · exact ih pool
      · exact fun _ member => ih _ (List.mem_append_left _ member)

theorem enqueue_brings {directives : List δ} (loaded : directive ∈ directives)
    (free : idOf directive ∉ pool.active) :
    ∃ first ∈ directives, idOf first = idOf directive ∧
      first ∈ (pool.enqueue directives).queue := by
  induction directives generalizing pool with
  | nil => cases loaded
  | cons next rest ih =>
      unfold Pool.enqueue
      by_cases same : idOf next = idOf directive
      · refine ⟨next, List.mem_cons_self, same, ?_⟩
        rw [if_neg (same ▸ free)]
        exact queue_enqueue_subset rest _ (List.mem_append_right _ (List.mem_singleton.mpr rfl))
      · have later : directive ∈ rest := by
          rcases List.mem_cons.mp loaded with rfl | there
          · exact (same rfl).elim
          · exact there
        split
        · obtain ⟨first, member, equal, queued⟩ := ih later free
          exact ⟨first, List.mem_cons_of_mem _ member, equal, queued⟩
        · have apart : idOf directive ∉ Pool.active { pool with
              queue := pool.queue ++ [next], active := idOf next :: pool.active } := by
            simpa [Ne.symm same] using free
          obtain ⟨first, member, equal, queued⟩ := ih later apart
          exact ⟨first, List.mem_cons_of_mem _ member, equal, queued⟩

/-- The next load that returns the directive queues its id. -/
def Loadable (pool : Pool δ ι) (directive : δ) : Prop :=
  idOf directive ∉ pool.active ∧ ∀ loaded, directive ∈ loaded →
    ∃ first ∈ loaded, idOf first = idOf directive ∧ first ∈ (pool.enqueue loaded).queue

theorem loadable_release (pool : Pool δ ι) (directive : δ) :
    (pool.release (idOf directive)).Loadable directive := by
  have free : idOf directive ∉ (pool.release (idOf directive)).active := by simp [Pool.release]
  exact ⟨free, fun loaded member => enqueue_brings member free⟩

end Pool

namespace System

variable [DecidableEq ι] [Identified δ ι] {delay workers : Nat} {action : Action δ ε}
  {system after : System δ ι ε}

/-- What one step of a worker does to the pool and to its own phase. -/
inductive Move (worker : Nat) (pool : Pool δ ι) :
    Action δ ε → Phase δ ε → Phase δ ε → Pool δ ι → Prop where
  | goOn {action : Action δ ε} {before next : Phase δ ε} {pool' : Pool δ ι}
      (loaded : List δ) (held : next.held? = before.held?)
      (queue : pool'.queue = (pool.enqueue loaded).queue)
      (active : pool'.active = (pool.enqueue loaded).active) :
      Move worker pool action before next pool'
  | take {action : Action δ ε} {before : Phase δ ε} {pool' : Pool δ ι} {directive : δ}
      (loaded : List δ) (held : before.held? = none)
      (queue : (pool.enqueue loaded).queue = directive :: pool'.queue)
      (active : pool'.active = (pool.enqueue loaded).active) :
      Move worker pool action before (.handed directive) pool'
  | release {directive : δ} :
      Move worker pool (.release worker) (.reported directive) .idle
        (pool.release (idOf directive))

theorem Turn.moves {worker : Nat} {before next : Phase δ ε} {pool : Pool δ ι}
    {events : List (Event δ ε)} (turn : Turn delay worker system action before next pool events) :
    Move worker system.pool action before next pool := by
  have received : ∀ result : Except ε (List δ),
      ∃ loaded, system.pool.receive result = system.pool.enqueue loaded := by
    rintro (failure | directives)
    · exact ⟨[], rfl⟩
    · exact ⟨directives, rfl⟩
  cases turn with
  | take head => exact .take [] rfl head rfl
  | @receive result directive queue head =>
      obtain ⟨loaded, filled⟩ := received result
      rw [filled] at head
      exact .take loaded rfl head (by rw [← filled])
  | @receiveNone result empty =>
      obtain ⟨loaded, filled⟩ := received result
      exact .goOn loaded rfl (congrArg Pool.queue filled) (congrArg Pool.active filled)
  | release => exact .release
  | _ => exact .goOn [] rfl rfl rfl

theorem step_moves (stepped : system.step? delay action = some after) :
    (after.pool = system.pool ∧ after.workers = system.workers) ∨
    ∃ worker before next, system.workers[worker]? = some before ∧
      after.workers = system.workers.set worker next ∧
      Move worker system.pool action before next after.pool := by
  cases step_stepped stepped with
  | markReady | wait => exact .inl ⟨rfl, rfl⟩
  | turn there turn => exact .inr ⟨_, _, _, there, rfl, turn.moves⟩

theorem Move.balanced {worker : Nat} {pool moved : Pool δ ι} {before next : Phase δ ε}
    {others : List δ} (move : Move worker pool action before next moved)
    (balanced : pool.Balanced (before.held?.toList ++ others)) :
    moved.Balanced (next.held?.toList ++ others) := by
  cases move with
  | goOn loaded held queue active =>
      rw [held]
      exact (balanced.enqueue loaded).same queue active
  | take loaded held queue active =>
      rw [held] at balanced
      exact (balanced.enqueue loaded).take queue active
  | release => exact balanced.release

theorem step_balanced (balanced : system.pool.Balanced system.held)
    (stepped : system.step? delay action = some after) : after.pool.Balanced after.held := by
  rcases step_moves stepped with ⟨pool, workers⟩ | ⟨worker, before, next, there, workers, move⟩
  · rw [held, pool, workers]
    exact balanced
  · obtain ⟨others, old, new⟩ := filterMap_set Phase.held? there
    rw [held, workers]
    exact (move.balanced (balanced.perm old)).perm (new next).symm

theorem Reachable.balanced (reachable : Reachable delay workers system) :
    system.pool.Balanced system.held := by
  induction reachable with
  | start =>
      have none : (new workers : System δ ι ε).held = [] :=
        List.filterMap_eq_nil_iff.mpr fun phase member => by
          rw [List.eq_of_mem_replicate member]
          rfl
      rw [none]
      exact ⟨.nil, fun id => Iff.rfl⟩
  | step action _ stepped ih => exact step_balanced ih stepped

def Holds (system : System δ ι ε) (worker : Nat) (directive : δ) : Prop :=
  ∃ phase, system.workers[worker]? = some phase ∧ phase.held? = some directive

omit [DecidableEq ι] in
theorem holder_unique {first second : Nat} {directive other : δ}
    (distinct : (system.held.map idOf).Nodup) (here : system.Holds first directive)
    (there : system.Holds second other) (same : idOf directive = idOf other) :
    first = second := by
  obtain ⟨phase, atFirst, held⟩ := here
  obtain ⟨later, atSecond, otherHeld⟩ := there
  by_contra different
  obtain ⟨others, old, new⟩ := filterMap_set Phase.held? atFirst
  rw [held] at old
  have taken : other ∈ others := by
    have still : (system.workers.set first .idle)[second]? = some later := by
      rw [List.getElem?_set_ne different, atSecond]
    exact (new .idle).mem_iff.mp
      (List.mem_filterMap.mpr ⟨later, List.mem_of_getElem? still, otherHeld⟩)
  obtain ⟨fresh, _⟩ := List.nodup_cons.mp ((old.map idOf).nodup_iff.mp distinct)
  exact fresh (List.mem_map.mpr ⟨other, taken, same.symm⟩)

theorem step_holds {worker : Nat} {directive : δ} (holds : system.Holds worker directive)
    (stepped : system.step? delay action = some after) :
    after.Holds worker directive ∨
      action = .release worker ∧ after.pool = system.pool.release (idOf directive) := by
  obtain ⟨phase, there, held⟩ := holds
  rcases step_moves stepped with ⟨_, workers⟩ | ⟨mover, before, next, own, workers, move⟩
  · exact .inl ⟨phase, by rw [workers, there], held⟩
  · by_cases other : mover = worker
    · subst other
      obtain rfl : phase = before := Option.some.inj (there.symm.trans own)
      have moved : after.workers[mover]? = some next := by
        rw [workers]
        exact List.getElem?_set_self (List.getElem?_eq_some_iff.mp own).1
      generalize after.pool = pool at move ⊢
      cases move with
      | goOn _ same => exact .inl ⟨next, moved, same.trans held⟩
      | take _ none =>
          rw [none] at held
          cases held
      | release =>
          obtain rfl := Option.some.inj held
          exact .inr ⟨rfl, rfl⟩
    · exact .inl ⟨phase, by rw [workers, List.getElem?_set_ne other, there], held⟩

/-- The system lets the worker go through these actions, and then the directive is free. -/
def Frees (delay : Nat) (system : System δ ι ε) (directive : δ) (actions : List (Action δ ε)) :
    Prop :=
  ∃ after, system.run? delay actions = some after ∧ after.pool.Loadable directive

theorem frees_cons {worker : Nat} {phase next : Phase δ ε} {directive : δ}
    {rest : List (Action δ ε)} (there : system.workers[worker]? = some phase)
    (own : action.worker? = some worker)
    (stepped : system.workerStep? delay worker phase action = some after)
    (workers : after.workers = system.workers.set worker next)
    (frees : after.workers[worker]? = some next → Frees delay after directive rest) :
    Frees delay system directive (action :: rest) := by
  have first : system.step? delay action = some after := by
    rw [← stepped]
    cases action <;> cases own <;> simp [step?, Action.worker?, there]
  have moved : after.workers[worker]? = some next := by
    rw [workers]
    exact List.getElem?_set_self (List.getElem?_eq_some_iff.mp there).1
  obtain ⟨final, ran, free⟩ := frees moved
  exact ⟨final, Option.bind_eq_some_iff.mpr ⟨after, first, ran⟩, free⟩

/-- A worker that holds a directive can go on by itself to its release, however the processing
ends. -/
theorem holder_releases {worker : Nat} {directive : δ} (holds : system.Holds worker directive)
    (outcome : Outcome) :
    ∃ actions, actions <:+ [.start worker, .finish worker outcome, .report worker,
      .release worker] ∧ Frees delay system directive actions := by
  have reported : ∀ {system : System δ ι ε}, system.workers[worker]? = some (.reported directive) →
      Frees delay system directive [.release worker] := fun there =>
    frees_cons there rfl rfl rfl fun _ => ⟨_, rfl, Pool.loadable_release _ directive⟩
  have processed : ∀ {system : System δ ι ε} {outcome : Outcome},
      system.workers[worker]? = some (.processed directive outcome) →
      Frees delay system directive [.report worker, .release worker] := fun there =>
    frees_cons there rfl rfl rfl reported
  have processing : ∀ {system : System δ ι ε},
      system.workers[worker]? = some (.processing directive) →
      Frees delay system directive [.finish worker outcome, .report worker, .release worker] :=
    fun there => frees_cons there rfl rfl rfl processed
  obtain ⟨phase, there, held⟩ := holds
  cases phase <;> cases held
  case handed =>
    exact ⟨_, List.suffix_rfl, frees_cons there rfl rfl rfl processing⟩
  case processing => exact ⟨_, List.suffix_cons _ _, processing there⟩
  case processed => exact ⟨_, ⟨[_, _], rfl⟩, processed there⟩
  case reported => exact ⟨_, ⟨[_, _, _], rfl⟩, reported there⟩

/-- However many workers there are, whatever the loads return and however the steps fall, the
queued ids and those of the workers are distinct and are the active ones, so no directive is
processed twice at once. An attempt ends with its own release and can always go on to it,
whatever its outcome, and from then on a load brings the directive again. -/
theorem one_attempt_per_directive (reachable : Reachable delay workers system) :
    (system.pool.queue.map idOf).Nodup ∧ (system.held.map idOf).Nodup ∧
    (∀ id ∈ system.pool.queue.map idOf, id ∉ system.held.map idOf) ∧
    (∀ id, id ∈ system.pool.active ↔
      id ∈ system.pool.queue.map idOf ∨ id ∈ system.held.map idOf) ∧
    (∀ (first second : Nat) (directive other : δ),
      system.workers[first]? = some (.processing directive) →
      system.workers[second]? = some (.processing other) → idOf directive = idOf other →
      first = second) ∧
    ∀ worker directive, system.Holds worker directive →
      (∀ action after, system.step? delay action = some after →
        after.Holds worker directive ∨ action = .release worker ∧ after.pool.Loadable directive) ∧
      ∀ outcome, ∃ actions, actions <:+ [.start worker, .finish worker outcome, .report worker,
        .release worker] ∧ Frees delay system directive actions := by
  have balanced := reachable.balanced
  have distinct := balanced.distinct
  rw [List.map_append, List.nodup_append] at distinct
  obtain ⟨queued, held, apart⟩ := distinct
  refine ⟨queued, held, ?_, ?_, ?_, ?_⟩
  · intro id inQueue inHeld
    exact apart id inQueue id inHeld rfl
  · intro id
    rw [balanced.active, List.map_append, List.mem_append]
  · intro first second directive other here there same
    exact holder_unique held ⟨_, here, rfl⟩ ⟨_, there, rfl⟩ same
  · intro worker directive holds
    constructor
    · intro action after stepped
      refine (step_holds holds stepped).imp_right fun ⟨own, released⟩ => ⟨own, ?_⟩
      rw [released]
      exact Pool.loadable_release system.pool directive
    · exact holder_releases holds

/-- Both workers load at once, and one load lists a job twice. Each of them gets a job of its
own, and the first goes on to its release even if its processing panics. -/
theorem overlapping_loads_share_no_job :
    ∃ system : JobSystem, Reachable 0 2 system ∧ system.pool.active = [2, 1] ∧
      system.held = [⟨1, 5, [.panic], 0⟩, ⟨2, 5, [], 0⟩] ∧ (system.held.map Job.id).Nodup ∧
      ∃ actions, actions <:+ [.start 0, .finish 0 .panic, .report 0, .release 0] ∧
        Frees 0 system ⟨1, 5, [.panic], 0⟩ actions := by
  let first : Job := ⟨1, 5, [.panic], 0⟩
  let second : Job := ⟨2, 5, [], 0⟩
  let actions : List (Action Job Unit) := [.markReady, .wake 0, .wake 1, .order 0, .order 1,
    .read 0 (.ok [first, second, first]), .read 1 (.ok [second, first]), .settle 0, .settle 1,
    .start 0]
  have runs : ((new 2 : JobSystem).run? 0 actions).map (fun system => (system.pool.active,
      system.held, system.workers[0]?.bind Phase.held?)) =
        some ([2, 1], [first, second], some first) := by
    decide +kernel
  obtain ⟨system, ran, shown⟩ := Option.map_eq_some_iff.mp runs
  simp only [Prod.mk.injEq] at shown
  obtain ⟨active, held, holds⟩ := shown
  have reachable : Reachable 0 2 system := .run .start ran
  obtain ⟨_, distinct, _, _, _, ends⟩ := one_attempt_per_directive reachable
  exact ⟨system, reachable, active, held, distinct,
    (ends 0 first (Option.bind_eq_some_iff.mp holds)).2 .panic⟩

end System

end Settlement.WorkerPool
