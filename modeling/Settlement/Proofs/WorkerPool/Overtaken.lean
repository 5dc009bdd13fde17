import Settlement.Proofs.WorkerPool.HandOver

/-!
When finished work is done again. The pool is open between the reading of storage and the
receiving of the answer. In that time another worker can process a directive of the answer
successfully and release it, and then nothing keeps the answer from bringing it again. This is the
only way: what a load reads after the success does not list the directive any more.
-/

namespace Settlement.WorkerPool

variable {δ ι ε : Type}

def Action.reads : Action δ ε → List δ
  | .read _ (.ok directives) => directives
  | _ => []

def Phase.unended? : Phase δ ε → Option δ
  | .handed directive | .processing directive => some directive
  | _ => none

namespace System

variable [DecidableEq ι] [Identified δ ι] {delay workers loader : Nat} {action : Action δ ε}
  {actions more : List (Action δ ε)} {system after : System δ ι ε} {directive : δ}

def succeeded (delay workers : Nat) (actions : List (Action δ ε)) : List ι :=
  ((gather endings delay actions (new workers)).filter (·.2 = .success)).map (idOf ·.1)

/-- No load reads a directive that was processed successfully before. -/
def Honest (delay workers : Nat) (actions : List (Action δ ε)) : Prop :=
  ∀ first action rest, actions = first ++ action :: rest →
    ∀ directive ∈ action.reads, idOf directive ∉ succeeded delay workers first

/-- A load read the directive before it was processed successfully, and got to the pool after
the id was free again. -/
def Overtaken (delay workers : Nat) (actions : List (Action δ ε)) (directive : δ) : Prop :=
  ∃ first loader loaded second third middle,
    actions = first ++ .read loader (.ok loaded) :: second ++ .settle loader :: third ∧
    (∀ action ∈ second, action.worker? ≠ some loader) ∧
    (new workers).run? delay (first ++ .read loader (.ok loaded) :: second) = some middle ∧
    loaded.find? (fun other => idOf other = idOf directive) = some directive ∧
    idOf directive ∉ succeeded delay workers first ∧
    idOf directive ∈ succeeded delay workers (first ++ .read loader (.ok loaded) :: second) ∧
    idOf directive ∉ middle.taken

section Runs

theorem honest_iff : Honest delay workers actions ↔
    ∀ index : Fin actions.length, ∀ directive ∈ actions[index].reads,
      idOf directive ∉ succeeded delay workers (actions.take index) := by
  constructor
  · intro honest index
    refine honest _ _ (actions.drop (index + 1)) ?_
    rw [Fin.getElem_fin, List.getElem_cons_drop, List.take_append_drop]
  · rintro honest first action rest rfl
    have here := honest ⟨first.length, by simp⟩
    simpa using here

instance : Decidable (Honest delay workers actions) := decidable_of_iff _ honest_iff.symm

theorem Honest.before (honest : Honest delay workers (actions ++ more)) :
    Honest delay workers actions := by
  rintro first action rest rfl
  exact honest first action (rest ++ more) (by simp)

theorem Overtaken.later (overtaken : Overtaken delay workers actions directive) :
    Overtaken delay workers (actions ++ more) directive := by
  obtain ⟨first, loader, loaded, second, third, middle, rfl, rest⟩ := overtaken
  exact ⟨first, loader, loaded, second, third ++ more, middle, by simp, rest⟩

theorem succeeded_snoc (ran : (new workers).run? delay actions = some system)
    (stepped : system.step? delay action = some after) :
    succeeded delay workers (actions ++ [action]) = succeeded delay workers actions ++
      ((system.endings action).filter (·.2 = .success)).map (idOf ·.1) := by
  rw [succeeded, gather_snoc ran stepped, List.filter_append, List.map_append]
  rfl

theorem loaded_since {result : Except ε (List δ)}
    (ran : (new workers).run? delay actions = some system)
    (there : system.workers[loader]? = some (.loaded result)) :
    ∃ first second, actions = first ++ .read loader result :: second ∧
      ∀ action ∈ second, action.worker? ≠ some loader := by
  refine run_induction (fun done system =>
    system.workers[loader]? = some (.loaded result) →
      ∃ first second, done = first ++ .read loader result :: second ∧
        ∀ action ∈ second, action.worker? ≠ some loader) ?_ ?_ ran there
  · intro there
    cases List.eq_of_mem_replicate (List.mem_of_getElem? there)
  · intro done system action after _ earlier stepped there
    by_cases own : action.worker? = some loader
    · cases step_stepped stepped with
      | markReady | wait => cases own
      | @turn worker _ before next _ _ known turn =>
          obtain rfl : worker = loader := Option.some.inj (turn.own.symm.trans own)
          rw [List.getElem?_set_self (List.getElem?_eq_some_iff.mp known).1] at there
          obtain rfl := Option.some.inj there
          cases turn
          exact ⟨done, [], rfl, by simp⟩
    · obtain ⟨first, second, rfl, others⟩ := earlier (step_others own stepped ▸ there)
      refine ⟨first, second ++ [action], by simp, fun other member => ?_⟩
      rcases List.mem_append.mp member with old | new
      · exact others other old
      · obtain rfl := List.mem_singleton.mp new
        exact own

end Runs

section Unended

def unended (system : System δ ι ε) : List δ :=
  system.pool.queue ++ system.workers.filterMap Phase.unended?

theorem step_unended (reachable : Reachable delay workers system)
    (stepped : system.step? delay action = some after) :
    (system.unended ++ system.brings action).Perm
      ((system.endings action).map Prod.fst ++ after.unended) := by
  classical
  cases step_stepped stepped with
  | markReady | wait => simp [brings, endings, unended]
  | @turn worker _ before next pool events there turn =>
      have queue := turn.queue reachable.balanced there
      obtain ⟨others, old, new⟩ := filterMap_set Phase.unended? there
      have moved : (told Event.handed? events ++ before.unended?.toList).Perm
          ((system.endings action).map Prod.fst ++ next.unended?.toList) := by
        cases turn <;> simp [endings, there, Event.handed?, Phase.unended?]
      rw [List.perm_iff_count] at *
      intro item
      have queue := congrArg (List.count item) queue
      have moved := moved item
      have old := old item
      have new := List.perm_iff_count.mp (new next) item
      simp only [unended, List.count_append] at *
      omega

theorem unended_distinct (reachable : Reachable delay workers system) :
    (system.unended.map idOf).Nodup := by
  have held : (system.workers.filterMap Phase.unended?).Sublist system.held := by
    rw [System.held]
    induction system.workers with
    | nil => exact .slnil
    | cons phase rest ih =>
        cases phase with
        | handed | processing => exact ih.cons_cons _
        | processed | reported => exact ih.cons _
        | _ => exact ih
  exact reachable.balanced.distinct.sublist ((held.append_left _).map _)

theorem ended_apart (reachable : Reachable delay workers system)
    (stepped : system.step? delay action = some after) {ended : δ × Outcome}
    (ending : ended ∈ system.endings action) (waits : directive ∈ after.unended) :
    idOf directive ≠ idOf ended.1 := by
  have nothing : system.brings action = [] := by
    cases action <;> first | rfl | cases ending
  have kept := step_unended reachable stepped
  rw [nothing, List.append_nil] at kept
  have distinct := (kept.map idOf).nodup_iff.mp (unended_distinct reachable)
  rw [List.map_append, List.nodup_append] at distinct
  intro same
  exact distinct.2.2 _ (List.mem_map_of_mem (List.mem_map_of_mem ending)) _
    (List.mem_map_of_mem waits) same.symm

end Unended

section Repeats

theorem overtaken_of_brings (ran : (new workers).run? delay actions = some system)
    (honest : Honest delay workers actions) (brought : directive ∈ system.brings action)
    (success : idOf directive ∈ succeeded delay workers actions) :
    Overtaken delay workers (actions ++ action :: more) directive := by
  cases action with
  | settle loader =>
      simp only [brings] at brought
      split at brought
      · rename_i loaded there
        obtain ⟨free, found⟩ := (mem_firstOfEach _ _ _).mp brought
        obtain ⟨first, second, rfl, others⟩ := loaded_since ran there
        have fresh := honest first _ second rfl directive (List.mem_of_find?_eq_some found)
        exact ⟨first, loader, loaded, second, more, system, rfl, others, ran, found, fresh, success,
          free⟩
      · cases brought
  | _ => cases brought

theorem unended_overtaken (ran : (new workers).run? delay actions = some system)
    (honest : Honest delay workers actions) (waits : directive ∈ system.unended)
    (success : idOf directive ∈ succeeded delay workers actions) :
    Overtaken delay workers actions directive := by
  refine run_induction (fun done system => Honest delay workers done →
    ∀ directive ∈ system.unended, idOf directive ∈ succeeded delay workers done →
      Overtaken delay workers done directive) ?_ ?_ ran honest directive waits success
  · intro _ directive _ success
    cases success
  · intro done system action after before earlier stepped honest directive waits success
    have reachable : Reachable delay workers system := .run .start before
    have already : idOf directive ∈ succeeded delay workers done := by
      rw [succeeded_snoc before stepped, List.mem_append] at success
      refine success.resolve_right fun now => ?_
      obtain ⟨ended, ending, same⟩ := List.mem_map.mp now
      exact ended_apart reachable stepped (List.mem_filter.mp ending).1 waits same.symm
    have came := (step_unended reachable stepped).mem_iff.mpr (List.mem_append_right _ waits)
    rcases List.mem_append.mp came with old | brought
    · exact (earlier honest.before directive old already).later
    · exact overtaken_of_brings before honest.before brought already

/-- The answer of an overtaken load waits with its worker while the others go on. -/
theorem Overtaken.waits (overtaken : Overtaken delay workers actions directive) :
    ∃ first loader loaded second third read middle,
      actions = first ++ .read loader (.ok loaded) :: second ++ .settle loader :: third ∧
      (∀ action ∈ second, action.worker? ≠ some loader) ∧
      (new workers).run? delay (first ++ [.read loader (.ok loaded)]) = some read ∧
      read.run? delay second = some middle ∧
      middle.workers[loader]? = some (.loaded (.ok loaded)) ∧
      directive ∈ middle.brings (.settle loader) ∧
      idOf directive ∉ succeeded delay workers (first ++ [.read loader (.ok loaded)]) ∧
      idOf directive ∈ succeeded delay workers (first ++ .read loader (.ok loaded) :: second) := by
  obtain ⟨first, loader, loaded, second, third, middle, rfl, others, ran, found, fresh, success,
    free⟩ := overtaken
  obtain ⟨system, before, more⟩ := Option.bind_eq_some_iff.mp (run?_append first _ _ ▸ ran)
  obtain ⟨read, stepped, more⟩ := Option.bind_eq_some_iff.mp more
  have there : middle.workers[loader]? = some (.loaded (.ok loaded)) := by
    rw [run_others others more]
    cases step_stepped stepped with
    | turn there turn =>
        cases turn
        exact List.getElem?_set_self (List.getElem?_eq_some_iff.mp there).1
  refine ⟨first, loader, loaded, second, third, read, middle, rfl, others, ?_, more, there, ?_, ?_,
    success⟩
  · rw [run?_snoc before]
    exact stepped
  · simp only [System.brings, there]
    exact (mem_firstOfEach _ _ _).mpr ⟨free, found⟩
  · rw [succeeded_snoc before stepped]
    simpa [endings] using fresh

theorem Overtaken.several (overtaken : Overtaken delay workers actions directive) :
    1 < workers := by
  obtain ⟨first, loader, loaded, second, third, read, middle, rfl, others, before, more, there, _,
    fresh, success⟩ := overtaken.waits
  -- The success ends a processing after the reading, so another worker's.
  rw [List.append_cons, succeeded, gather_append before, List.filter_append, List.map_append,
    List.mem_append] at success
  obtain ⟨ended, ending, _⟩ := List.mem_map.mp (success.resolve_left fresh)
  obtain ⟨done, action, rest, meanwhile, rfl, ran, ending⟩ :=
    mem_gather (List.mem_filter.mp ending).1
  have size : ∀ {actions : List (Action δ ε)} {system : System δ ι ε},
      (new workers).run? delay actions = some system → system.workers.length = max workers 1 :=
    fun ran => (run_workers_length ran).trans List.length_replicate
  have loads : loader < max workers 1 := by
    rw [← size before, ← run_workers_length more]
    exact (List.getElem?_eq_some_iff.mp there).1
  cases action with
  | finish worker outcome =>
      have works : worker < max workers 1 := by
        rw [← size before, ← run_workers_length ran]
        by_contra beyond
        simp [endings, List.getElem?_eq_none (Nat.le_of_not_lt beyond)] at ending
      have apart := others (.finish worker outcome) (by simp)
      simp only [Action.worker?, ne_eq, Option.some_inj] at apart
      omega
  | _ => cases ending

end Repeats

/-- However many workers there are and however the steps fall: if no load reads what was processed
successfully before, a directive is handed to a worker only if every processing of its id that
ended before has failed or panicked, or a load was overtaken by the success. Every overtaken load
brings its directive again, and none is overtaken with a single worker. -/
theorem only_overtaken_loads_repeat_success (honest : Honest delay workers actions)
    (ran : (new workers).run? delay actions = some system) :
    (∀ (worker : Nat) directive, system.workers[worker]? = some (.handed directive) →
      Overtaken delay workers actions directive ∨
      ∀ ended ∈ gather endings delay actions (new workers),
        idOf ended.1 = idOf directive → ended.2 ≠ .success) ∧
    (∀ directive, Overtaken delay workers actions directive ↔
      ∃ first action rest middle, actions = first ++ action :: rest ∧
        (new workers).run? delay first = some middle ∧ directive ∈ middle.brings action ∧
        idOf directive ∈ succeeded delay workers first) ∧
    (workers ≤ 1 → ∀ directive, ¬ Overtaken delay workers actions directive) := by
  refine ⟨?_, fun directive => ⟨?_, ?_⟩, fun alone directive overtaken => ?_⟩
  · intro worker directive handed
    by_cases success : idOf directive ∈ succeeded delay workers actions
    · refine .inl (unended_overtaken ran honest (List.mem_append_right _ ?_) success)
      exact List.mem_filterMap.mpr ⟨_, List.mem_of_getElem? handed, rfl⟩
    · refine .inr fun ended ending same won => success ?_
      exact List.mem_map.mpr ⟨ended, List.mem_filter.mpr ⟨ending, by simp [won]⟩, same⟩
  · intro overtaken
    obtain ⟨first, loader, loaded, second, third, read, middle, rfl, _, before, more, _, brought, _,
      success⟩ := overtaken.waits
    refine ⟨_, .settle loader, third, middle, rfl, ?_, brought, success⟩
    rw [List.append_cons, run?_append, before]
    exact more
  · rintro ⟨first, action, rest, middle, rfl, before, brought, success⟩
    exact overtaken_of_brings before honest.before brought success
  · exact absurd overtaken.several (Nat.not_lt_of_le alone)

/-- The second load begins after the delay, while the first worker still processes the job, and
reads it. Then the first worker reports its success and releases it, and the second gets it. -/
theorem successful_job_is_handed_out_again :
    ∃ (actions : List (Action Job Unit)) (system : JobSystem),
      Honest 10 2 actions ∧ (new 2 : JobSystem).run? 10 actions = some system ∧
      told Event.reported? system.history = [(⟨1, 15, [], 0⟩, .success)] ∧
      told Event.handed? system.history = [⟨1, 15, [], 0⟩, ⟨1, 15, [], 0⟩] ∧
      Overtaken 10 2 actions (⟨1, 15, [], 0⟩ : Job) := by
  let job : Job := ⟨1, 15, [], 0⟩
  let actions : List (Action Job Unit) := [.markReady, .wake 0, .order 0, .read 0 (.ok [job]),
    .settle 0, .start 0, .wait 10, .wake 1, .order 1, .wait 14, .read 1 (.ok [job]), .wait 15,
    .finish 0 .success, .report 0, .release 0, .settle 1]
  have honest : Honest 10 2 actions := by decide +kernel
  have runs : ((new 2 : JobSystem).run? 10 actions).map (fun system =>
      (told Event.reported? system.history, told Event.handed? system.history,
        system.workers[1]?.bind Phase.handed?)) =
          some ([(job, .success)], [job, job], some job) := by
    decide +kernel
  have ended : (job, Outcome.success) ∈ gather endings 10 actions (new 2 : JobSystem) := by
    decide +kernel
  obtain ⟨system, ran, shown⟩ := Option.map_eq_some_iff.mp runs
  simp only [Prod.mk.injEq] at shown
  obtain ⟨reports, hands, holds⟩ := shown
  obtain ⟨phase, there, holds⟩ := Option.bind_eq_some_iff.mp holds
  have handed : phase = .handed job := by
    cases phase <;> cases holds
    rfl
  refine ⟨actions, system, honest, ran, reports, hands, ?_⟩
  have either := (only_overtaken_loads_repeat_success honest ran).1 1 job (handed ▸ there)
  exact either.resolve_right fun failed => failed _ ended rfl rfl

end System

end Settlement.WorkerPool
