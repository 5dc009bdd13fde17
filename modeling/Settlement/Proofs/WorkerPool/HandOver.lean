import Settlement.Proofs.WorkerPool.InFlight

/-!
What becomes of loaded work. A load brings the first directive of every id that is neither
queued nor held by a worker. What was handed out, followed by the queue, is all that was brought,
in that order: every directive that was brought is handed out once, every one that was handed out
is started and reported once, and once a worker has released an id a load brings it again.
-/

namespace Settlement.WorkerPool

variable {δ ι ε : Type}

section FirstOfEach

variable [DecidableEq ι] [Identified δ ι] {taken other : List ι} {directives : List δ}

/-- The first directive of every id that is not taken, in their order. -/
def firstOfEach (taken : List ι) (directives : List δ) : List δ :=
  (directives.filter fun directive => idOf directive ∉ taken).eraseDupsBy
    fun directive earlier => idOf directive = idOf earlier

theorem firstOfEach_cons (taken : List ι) (directive : δ) (rest : List δ) :
    firstOfEach taken (directive :: rest) =
      if idOf directive ∈ taken then firstOfEach taken rest
      else directive :: firstOfEach (idOf directive :: taken) rest := by
  unfold firstOfEach
  by_cases known : idOf directive ∈ taken
  · simp [known]
  · simp [known, List.eraseDupsBy_cons, List.filter_filter]

theorem firstOfEach_congr (same : ∀ id, id ∈ taken ↔ id ∈ other) (directives : List δ) :
    firstOfEach taken directives = firstOfEach other directives := by
  simp only [firstOfEach, same]

theorem mem_firstOfEach (taken : List ι) (directives : List δ) (directive : δ) :
    directive ∈ firstOfEach taken directives ↔ idOf directive ∉ taken ∧
      directives.find? (fun other => idOf other = idOf directive) = some directive := by
  induction directives generalizing taken with
  | nil => simp [firstOfEach]
  | cons next rest ih =>
      rw [firstOfEach_cons]
      by_cases same : idOf next = idOf directive
      · rw [List.find?_cons_of_pos (by simpa using same), Option.some_inj]
        by_cases known : idOf next ∈ taken
        · rw [if_pos known, ih]
          rw [same] at known
          exact iff_of_false (fun free => free.1 known) (fun free => free.1 known)
        · rw [if_neg known, List.mem_cons, ih]
          constructor
          · rintro (rfl | ⟨fresh, _⟩)
            · exact ⟨known, rfl⟩
            · exact (fresh (same ▸ List.mem_cons_self)).elim
          · rintro ⟨_, rfl⟩
            exact .inl rfl
      · have apart : directive ≠ next := fun equal => same (equal ▸ rfl)
        rw [List.find?_cons_of_neg (by simpa using same)]
        split
        · rw [ih]
        · rw [List.mem_cons, ih]
          simp [apart, Ne.symm same]

theorem Pool.queue_enqueue (directives : List δ) (pool : Pool δ ι) :
    (pool.enqueue directives).queue = pool.queue ++ firstOfEach pool.active directives := by
  induction directives generalizing pool with
  | nil => simp [Pool.enqueue, firstOfEach]
  | cons directive rest ih =>
      rw [firstOfEach_cons]
      unfold Pool.enqueue
      by_cases known : idOf directive ∈ pool.active
      · rw [if_pos known, if_pos known, ih]
      · rw [if_neg known, if_neg known, ih]
        simp

theorem Pool.active_enqueue (directives : List δ) (pool : Pool δ ι) (id : ι) :
    id ∈ (pool.enqueue directives).active ↔
      id ∈ pool.active ∨ id ∈ (firstOfEach pool.active directives).map idOf := by
  induction directives generalizing pool with
  | nil => simp [Pool.enqueue, firstOfEach]
  | cons directive rest ih =>
      rw [firstOfEach_cons]
      unfold Pool.enqueue
      by_cases known : idOf directive ∈ pool.active
      · rw [if_pos known, if_pos known, ih]
      · rw [if_neg known, if_neg known, ih]
        simp only [List.mem_cons, List.map_cons, or_assoc, or_left_comm]

end FirstOfEach

section Told

variable {β : Type}

def Event.handed? : Event δ ε → Option δ
  | .handed _ directive => some directive
  | _ => none

def Event.started? : Event δ ε → Option δ
  | .started _ directive => some directive
  | _ => none

def Event.reported? : Event δ ε → Option (δ × Outcome)
  | .reported _ directive outcome => some (directive, outcome)
  | _ => none

def told (view : Event δ ε → Option β) (history : List (Event δ ε)) : List β :=
  (history.filterMap view).reverse

@[simp] theorem told_nil (view : Event δ ε → Option β) : told view [] = [] := rfl

@[simp] theorem told_cons (view : Event δ ε → Option β) (event : Event δ ε)
    (history : List (Event δ ε)) :
    told view (event :: history) = told view history ++ (view event).toList := by
  rw [told, List.filterMap_cons]
  cases view event <;> simp [told]

theorem told_append (view : Event δ ε → Option β) (events history : List (Event δ ε)) :
    told view (events ++ history) = told view history ++ told view events := by
  simp [told]

def Phase.handed? : Phase δ ε → Option δ
  | .handed directive => some directive
  | _ => none

def Phase.unreported? : Phase δ ε → Option δ
  | .handed directive | .processing directive | .processed directive _ => some directive
  | _ => none

def Phase.ended? : Phase δ ε → Option (δ × Outcome)
  | .processed directive outcome => some (directive, outcome)
  | _ => none

end Told

namespace System

variable [DecidableEq ι] [Identified δ ι] {delay workers : Nat} {action : Action δ ε}
  {actions : List (Action δ ε)} {system after freed : System δ ι ε}

def taken (system : System δ ι ε) : List ι := (system.pool.queue ++ system.held).map idOf

/-- What an action brings into the pool. -/
def brings (system : System δ ι ε) : Action δ ε → List δ
  | .settle worker =>
      match system.workers[worker]? with
      | some (.loaded (.ok directives)) => firstOfEach system.taken directives
      | _ => []
  | _ => []

def endings (system : System δ ι ε) : Action δ ε → List (δ × Outcome)
  | .finish worker outcome =>
      match system.workers[worker]? with
      | some (.processing directive) => [(directive, outcome)]
      | _ => []
  | _ => []

section Order

theorem receive_brings {worker : Nat} {result : Except ε (List δ)}
    (balanced : system.pool.Balanced system.held)
    (there : system.workers[worker]? = some (.loaded result)) :
    (system.pool.receive result).queue = system.pool.queue ++ system.brings (.settle worker) ∧
    ∀ id, id ∈ (system.pool.receive result).active ↔
      id ∈ system.pool.active ∨ id ∈ (system.brings (.settle worker)).map idOf := by
  cases result with
  | error failure => simp [brings, there, Pool.receive]
  | ok directives =>
      have same : firstOfEach system.taken directives = firstOfEach system.pool.active directives :=
        firstOfEach_congr (fun id => (balanced.active id).symm) directives
      simp only [brings, there, same]
      exact ⟨Pool.queue_enqueue directives _, Pool.active_enqueue directives _⟩

theorem Turn.queue {worker : Nat} {before next : Phase δ ε} {pool : Pool δ ι}
    {events : List (Event δ ε)} (balanced : system.pool.Balanced system.held)
    (there : system.workers[worker]? = some before)
    (turn : Turn delay worker system action before next pool events) :
    system.pool.queue ++ system.brings action = told Event.handed? events ++ pool.queue := by
  -- A directive leaves the queue at its head only, and what is brought comes to its end.
  cases turn with
  | take head => exact (List.append_nil _).trans head
  | receive head => exact (receive_brings balanced there).1.symm.trans head
  | receiveNone => exact (receive_brings balanced there).1.symm
  | _ => simp [brings, Event.handed?, Pool.release]

theorem step_queue (reachable : Reachable delay workers system)
    (stepped : system.step? delay action = some after) :
    told Event.handed? after.history ++ after.pool.queue =
      told Event.handed? system.history ++ system.pool.queue ++ system.brings action := by
  cases step_stepped stepped with
  | markReady | wait => simp [brings]
  | turn there turn =>
      rw [told_append, List.append_assoc, List.append_assoc, turn.queue reachable.balanced there]

end Order

section Accounts

variable {β : Type}

theorem account_set {owed : Phase δ ε → Option β} {worker : Nat} {before next : Phase δ ε}
    {phases : List (Phase δ ε)} {came went more paid : List β}
    (there : phases[worker]? = some before)
    (account : came.Perm (went ++ phases.filterMap owed))
    (balance : (more ++ (owed before).toList).Perm (paid ++ (owed next).toList)) :
    (came ++ more).Perm (went ++ paid ++ (phases.set worker next).filterMap owed) := by
  -- What came in is what went out and what the workers still owe.
  classical
  obtain ⟨others, old, new⟩ := filterMap_set owed there
  rw [List.perm_iff_count] at *
  intro item
  have account := account item
  have balance := balance item
  have old := old item
  have new := List.perm_iff_count.mp (new next) item
  simp only [List.count_append] at *
  omega

omit [DecidableEq ι] [Identified δ ι] in
theorem filterMap_new {owed : Phase δ ε → Option β} (nothing : owed .waiting = none) :
    (new workers : System δ ι ε).workers.filterMap owed = [] :=
  List.filterMap_eq_nil_iff.mpr fun _ member => (List.eq_of_mem_replicate member) ▸ nothing

/-- If every turn pays for what it tells of, or owes it, the account is right at every time. -/
theorem Reachable.account (came paid : Event δ ε → Option β) (owed : Phase δ ε → Option β)
    (nothing : owed .waiting = none)
    (balance : ∀ {system : System δ ι ε} {action worker before next pool events},
      Turn delay worker system action before next pool events →
      (told came events ++ (owed before).toList).Perm (told paid events ++ (owed next).toList))
    (reachable : Reachable delay workers system) :
    (told came system.history).Perm
      (told paid system.history ++ system.workers.filterMap owed) := by
  induction reachable with
  | start =>
      rw [filterMap_new nothing]
      exact .nil
  | step action _ stepped ih =>
      cases step_stepped stepped with
      | markReady | wait => exact ih
      | turn there turn =>
          rw [told_append, told_append]
          exact account_set there ih (balance turn)

theorem endings_reported (ran : (new workers).run? delay actions = some system) :
    (gather endings delay actions (new workers)).Perm
      (told Event.reported? system.history ++ system.workers.filterMap Phase.ended?) := by
  refine run_induction (fun done system => (gather endings delay done (new workers)).Perm
    (told Event.reported? system.history ++ system.workers.filterMap Phase.ended?)) ?_ ?_ ran
  · rw [filterMap_new rfl]
    exact .nil
  · intro done system action after before account stepped
    rw [gather_snoc before stepped]
    cases step_stepped stepped with
    | markReady | wait => simpa [endings] using account
    | turn there turn =>
        rw [told_append]
        refine account_set there account ?_
        cases turn <;> simp [endings, there, Event.reported?, Phase.ended?]

end Accounts

section Return

theorem Turn.active {worker : Nat} {before next : Phase δ ε} {pool : Pool δ ι}
    {events : List (Event δ ε)} (balanced : system.pool.Balanced system.held)
    (there : system.workers[worker]? = some before)
    (turn : Turn delay worker system action before next pool events) {id : ι}
    (active : id ∈ pool.active) :
    id ∈ system.pool.active ∨ id ∈ (system.brings action).map idOf := by
  cases turn with
  | receive | receiveNone => exact ((receive_brings balanced there).2 id).mp active
  | release => exact .inl (List.mem_filter.mp active).1
  | _ => exact .inl active

theorem step_taken (reachable : Reachable delay workers system)
    (stepped : system.step? delay action = some after) {id : ι} (taken : id ∈ after.taken) :
    id ∈ system.taken ∨ id ∈ (system.brings action).map idOf := by
  have active := ((reachable.step action stepped).balanced.active id).mpr taken
  suffices id ∈ system.pool.active ∨ id ∈ (system.brings action).map idOf from
    this.imp_left (reachable.balanced.active id).mp
  cases step_stepped stepped with
  | markReady | wait => exact .inl active
  | turn there turn => exact turn.active reachable.balanced there active

theorem run_taken (reachable : Reachable delay workers system)
    (ran : system.run? delay actions = some after) {id : ι} (taken : id ∈ after.taken) :
    id ∈ system.taken ∨ id ∈ (gather brings delay actions system).map idOf := by
  refine run_induction (fun done after => id ∈ after.taken →
    id ∈ system.taken ∨ id ∈ (gather brings delay done system).map idOf) .inl ?_ ran taken
  intro done middle action after before earlier stepped taken
  rw [gather_snoc before stepped, List.map_append, List.mem_append]
  rcases step_taken (reachable.run before) stepped taken with old | new
  · exact (earlier old).imp_right .inl
  · exact .inr (.inr new)

theorem released_brought_again {worker loader : Nat} {directive first : δ} {loaded : List δ}
    (reachable : Reachable delay workers system)
    (there : system.workers[worker]? = some (.reported directive))
    (released : system.step? delay (.release worker) = some freed)
    (ran : freed.run? delay actions = some after)
    (none : ∀ brought ∈ gather brings delay actions freed, idOf brought ≠ idOf directive)
    (holds : after.workers[loader]? = some (.loaded (.ok loaded)))
    (found : loaded.find? (fun other => idOf other = idOf directive) = some first) :
    first ∈ after.brings (.settle loader) := by
  have reached := reachable.step _ released
  have free : idOf directive ∉ freed.taken := by
    rw [taken, ← reached.balanced.active]
    simp only [step?, Action.worker?, Option.bind_some, there] at released
    cases released
    simp [record, setPhase, Pool.release]
  have still : idOf directive ∉ after.taken := by
    intro again
    rcases run_taken reached ran again with old | new
    · exact free old
    · obtain ⟨brought, member, same⟩ := List.mem_map.mp new
      exact none brought member same
  have same : idOf first = idOf directive := by simpa using List.find?_some found
  simp only [brings, holds]
  rw [← same] at still found
  exact (mem_firstOfEach _ _ _).mpr ⟨still, found⟩

end Return

/-- However many workers there are, whatever the loads return and however processing ends, what
was handed out and then the queue is all that the loads brought, in that order. Every load brings
the first directive of each id that nobody has, a failed one nothing. What was handed out is
started once, and reported once with the outcome of its processing; after its release it is
brought again by the first load that returns it. -/
theorem loaded_work_is_started_in_order_once
    (ran : (new workers).run? delay actions = some system) :
    told Event.handed? system.history ++ system.pool.queue =
      gather brings delay actions (new workers) ∧
    (∀ loader result after, system.workers[loader]? = some (.loaded result) →
      system.step? delay (.settle loader) = some after →
      told Event.handed? after.history ++ after.pool.queue =
        told Event.handed? system.history ++ system.pool.queue ++
          match result with
          | .ok directives => firstOfEach system.taken directives
          | .error _ => []) ∧
    (told Event.handed? system.history).Perm
      (told Event.started? system.history ++ system.workers.filterMap Phase.handed?) ∧
    (told Event.handed? system.history).Perm
      ((told Event.reported? system.history).map Prod.fst ++
        system.workers.filterMap Phase.unreported?) ∧
    (gather endings delay actions (new workers)).Perm
      (told Event.reported? system.history ++ system.workers.filterMap Phase.ended?) ∧
    (∀ worker directive outcome,
      system.workers[worker]? = some (.processed directive outcome) →
      ∃ after, system.step? delay (.report worker) = some after ∧
        told Event.reported? after.history =
          told Event.reported? system.history ++ [(directive, outcome)]) ∧
    ∀ worker directive freed, system.workers[worker]? = some (.reported directive) →
      system.step? delay (.release worker) = some freed →
      ∀ more later, freed.run? delay more = some later →
        (∀ brought ∈ gather brings delay more freed, idOf brought ≠ idOf directive) →
        ∀ loader loaded first, later.workers[loader]? = some (.loaded (.ok loaded)) →
          loaded.find? (fun other => idOf other = idOf directive) = some first →
          first ∈ later.brings (.settle loader) := by
  have reachable : Reachable delay workers system := .run .start ran
  refine ⟨?_, ?_, ?_, ?_, endings_reported ran, ?_, ?_⟩
  · refine run_induction (fun done system =>
      told Event.handed? system.history ++ system.pool.queue =
        gather brings delay done (new workers)) rfl ?_ ran
    intro done system action after before account stepped
    rw [gather_snoc before stepped, ← account]
    exact step_queue (.run .start before) stepped
  · intro loader result after there stepped
    rw [step_queue reachable stepped]
    simp only [brings, there]
    cases result <;> rfl
  · refine reachable.account Event.handed? Event.started? Phase.handed? rfl fun turn => ?_
    cases turn <;> simp [Event.handed?, Event.started?, Phase.handed?]
  · have once := reachable.account Event.handed?
      (fun event => event.reported?.map Prod.fst) Phase.unreported? rfl
      fun turn => by cases turn <;> simp [Event.handed?, Event.reported?, Phase.unreported?]
    simpa only [told, List.map_reverse, List.map_filterMap] using once
  · intro worker directive outcome there
    refine ⟨(system.setPhase worker (.reported directive)).record
      (.reported system.now directive outcome), ?_, ?_⟩
    · simp [step?, Action.worker?, there, workerStep?]
    · simp [record, setPhase, Event.reported?]
  · intro worker directive freed there released more later ran none loader loaded first holds found
    exact released_brought_again reachable there released ran none holds found

/-- One load lists a job twice, one fails, and one finds the second job still with its worker. The
job whose processing panicked comes back, alone. -/
theorem panicked_job_is_brought_again :
    ∃ (actions : List (Action Job Unit)) (system : JobSystem),
      (new 2 : JobSystem).run? 0 actions = some system ∧
      gather brings 0 actions (new 2 : JobSystem) =
        [⟨1, 5, [.panic], 0⟩, ⟨2, 5, [.failure], 0⟩, ⟨1, 5, [.panic], 0⟩] ∧
      told Event.handed? system.history ++ system.pool.queue =
        [⟨1, 5, [.panic], 0⟩, ⟨2, 5, [.failure], 0⟩, ⟨1, 5, [.panic], 0⟩] ∧
      told Event.reported? system.history =
        [(⟨1, 5, [.panic], 0⟩, .panic), (⟨2, 5, [.failure], 0⟩, .failure)] := by
  let first : Job := ⟨1, 5, [.panic], 0⟩
  let second : Job := ⟨2, 5, [.failure], 0⟩
  let actions : List (Action Job Unit) := [.markReady, .wake 0, .wake 1, .order 0,
    .read 0 (.ok [first, second, first]), .settle 0, .start 0, .order 1, .finish 0 .panic,
    .report 0, .release 0, .order 0, .read 0 (.error ()), .settle 0, .start 1, .finish 1 .failure,
    .report 1, .wake 0, .order 0, .read 0 (.ok [second, first]), .settle 0]
  have runs : ((new 2 : JobSystem).run? 0 actions).map
      (fun system => told Event.reported? system.history) =
        some [(first, .panic), (second, .failure)] := by
    decide +kernel
  have brought : gather brings 0 actions (new 2 : JobSystem) = [first, second, first] := by
    decide +kernel
  obtain ⟨system, ran, reports⟩ := Option.map_eq_some_iff.mp runs
  exact ⟨actions, system, ran, brought,
    (loaded_work_is_started_in_order_once ran).1.trans brought, reports⟩

end System

end Settlement.WorkerPool
