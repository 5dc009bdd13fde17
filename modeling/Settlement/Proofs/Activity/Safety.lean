import Settlement.Consumer

/-!
What the runs of an activity keep, whatever answers it. A run may be given up between any
two questions and something else begun in its place. `Keeps` follows the questions of one
activity; `Run.keeps` carries it over any number of attempts.
-/

namespace Settlement

/-- Which reply a question may get, with the state before it and after it. -/
abbrev Answering (σ : Type) := (request : Request) → σ → request.Reply → σ → Prop

structure Exchange where
  request : Request
  reply : request.Reply

/-- A state with all that has been asked so far, the latest first. -/
structure Recorded (σ : Type) where
  state : σ
  history : List Exchange

def Answering.recorded {σ : Type} (answers : Answering σ) : Answering (Recorded σ) :=
  fun request before reply after => answers request before.state reply after.state ∧
    after.history = ⟨request, reply⟩ :: before.history

namespace Activity

variable {σ ε δ α β : Type} {answers : Answering σ} {allowed : σ → σ → Prop}

/-- Every answer takes the state an allowed step, and an ending meets the postcondition. -/
def Keeps (answers : Answering σ) (allowed : σ → σ → Prop) (post : Except ε α → σ → Prop) :
    Activity ε α → σ → Prop
  | .done result, state => post result state
  | .ask request next, state => ∀ reply after, answers request state reply after →
      allowed state after ∧ (next reply).Keeps answers allowed post after

theorem keeps_storage {statement : Store.Statement} {view : Store.Fault → ε}
    {post : Except ε statement.Reply → σ → Prop} (state : σ) :
    (Activity.storage view statement).Keeps answers allowed post state ↔
      ∀ reply after, answers (.storage statement) state reply after →
        allowed state after ∧ post (reply.mapError view) after := by
  apply forall_congr'
  intro reply
  cases reply <;> exact Iff.rfl

theorem Keeps.mono {post final : Except ε α → σ → Prop} {activity : Activity ε α} {state : σ}
    (keeps : activity.Keeps answers allowed post state)
    (implies : ∀ result state, post result state → final result state) :
    activity.Keeps answers allowed final state := by
  induction activity generalizing state with
  | done result => exact implies result state keeps
  | ask request next ih =>
      intro reply after answered
      obtain ⟨step, rest⟩ := keeps reply after answered
      exact ⟨step, ih reply rest⟩

theorem Keeps.and {post other : Except ε α → σ → Prop} {activity : Activity ε α} {state : σ}
    (keeps : activity.Keeps answers allowed post state)
    (also : activity.Keeps answers allowed other state) :
    activity.Keeps answers allowed (fun result state => post result state ∧ other result state)
      state := by
  induction activity generalizing state with
  | done result => exact ⟨keeps, also⟩
  | ask request next ih =>
      intro reply after answered
      obtain ⟨step, rest⟩ := keeps reply after answered
      exact ⟨step, ih reply rest (also reply after answered).2⟩

theorem keeps_bind {post : Except ε β → σ → Prop} (first : Activity ε α)
    (next : α → Activity ε β) (state : σ) :
    (first >>= next).Keeps answers allowed post state ↔
      first.Keeps answers allowed (fun result state =>
        match result with
        | .ok value => (next value).Keeps answers allowed post state
        | .error failure => post (.error failure) state) state := by
  change (first.bind next).Keeps answers allowed post state ↔ _
  induction first generalizing state with
  | done result => cases result <;> exact Iff.rfl
  | ask request rest ih => simp only [bind, Keeps, ih]

theorem Keeps.bind {middle : Except ε α → σ → Prop} {post : Except ε β → σ → Prop}
    {first : Activity ε α} {next : α → Activity ε β} {state : σ}
    (keeps : first.Keeps answers allowed middle state)
    (succeeds : ∀ value state, middle (.ok value) state →
      (next value).Keeps answers allowed post state)
    (fails : ∀ failure state, middle (.error failure) state → post (.error failure) state) :
    (first >>= next).Keeps answers allowed post state := by
  rw [keeps_bind]
  refine keeps.mono fun result state holds => ?_
  cases result with
  | ok value => exact succeeds value state holds
  | error failure => exact fails failure state holds

theorem keeps_discard {post : Except ε Unit → σ → Prop} (activity : Activity ε α) (state : σ) :
    (discard activity).Keeps answers allowed post state ↔
      activity.Keeps answers allowed (fun result => post (result.map fun _ => ())) state := by
  change (activity >>= fun _ => pure ()).Keeps answers allowed post state ↔ _
  rw [keeps_bind]
  constructor <;> intro keeps <;> refine keeps.mono ?_ <;> intro result state holds <;>
    cases result <;> exact holds

theorem keeps_mapFailure {post : Except δ α → σ → Prop} (view : ε → δ)
    (activity : Activity ε α) (state : σ) :
    (activity.mapFailure view).Keeps answers allowed post state ↔
      activity.Keeps answers allowed (fun result => post (result.mapError view)) state := by
  induction activity generalizing state with
  | done result => cases result <;> exact Iff.rfl
  | ask request next ih => simp only [mapFailure, Keeps, ih]

theorem Keeps.of_run {answer : (request : Request) → Option request.Reply}
    {post : Except ε α → σ → Prop} {activity : Activity ε α} {state : σ} {result : Except ε α}
    (keeps : activity.Keeps answers allowed post state)
    (among : ∀ request reply, answer request = some reply → answers request state reply state)
    (ran : activity.run answer = some result) : post result state := by
  induction activity with
  | done ended =>
      cases ran
      exact keeps
  | ask request next ih =>
      obtain ⟨reply, told, rest⟩ := Option.bind_eq_some_iff.mp ran
      exact ih reply (keeps reply state (among request reply told)).2 rest

def Asks (allowed : Request → Prop) : Activity ε α → Prop
  | .done _ => True
  | .ask request next => allowed request ∧ ∀ reply, (next reply).Asks allowed

section Asks

variable {within : Request → Prop}

theorem Asks.bind {first : Activity ε α} {next : α → Activity ε β} (asks : first.Asks within)
    (rest : ∀ value, (next value).Asks within) : (first >>= next).Asks within := by
  change (first.bind next).Asks within
  induction first with
  | done result =>
      cases result with
      | ok value => exact rest value
      | error failure => trivial
  | ask request next ih => exact ⟨asks.1, fun reply => ih reply (asks.2 reply)⟩

theorem Asks.mapFailure {activity : Activity ε α} (view : ε → δ) (asks : activity.Asks within) :
    (activity.mapFailure view).Asks within := by
  induction activity with
  | done result => cases result <;> trivial
  | ask request next ih => exact ⟨asks.1, fun reply => ih reply (asks.2 reply)⟩

theorem asks_storage {statement : Store.Statement} {view : Store.Fault → ε}
    (allowed : within (.storage statement)) :
    (Activity.storage view statement).Asks within := by
  refine ⟨allowed, fun reply => ?_⟩
  cases reply <;> trivial

theorem Asks.keeps {same : σ → σ → Prop} {activity : Activity ε α} {start : σ}
    (asks : activity.Asks within) (refl : ∀ state, same state state)
    (trans : ∀ {first second third}, same first second → same second third → same first third)
    (steps : ∀ {request before reply after}, within request →
      answers request before reply after → same before after)
    (permits : ∀ {before after}, same start before → same before after → allowed before after) :
    activity.Keeps answers allowed (fun _ after => same start after) start := by
  have whole : ∀ state, same start state →
      activity.Keeps answers allowed (fun _ after => same start after) state := by
    induction activity with
    | done result => exact fun state reached => reached
    | ask request next ih =>
        intro state reached reply after answered
        have step := steps asks.1 answered
        exact ⟨permits reached step, ih reply (asks.2 reply) after (trans reached step)⟩
  exact whole start (refl start)

end Asks

/-- What may be left of a program, and the state it left. At any point the rest may be given
up, be it unfinished, failed or done, for a program that may be begun again. -/
inductive Run (answers : Answering σ) (again : Activity ε α → Prop) (program : Activity ε α)
    (start : σ) : Activity ε α → σ → Prop where
  | begin : Run answers again program start program start
  | answer {request : Request} {next : request.Reply → Activity ε α} {before after : σ}
      {reply : request.Reply} :
      Run answers again program start (.ask request next) before →
      answers request before reply after → Run answers again program start (next reply) after
  | restart {rest other : Activity ε α} {state : σ} :
      Run answers again program start rest state → again other →
      Run answers again program start other state

theorem Run.answer_recorded {again : Activity ε α → Prop} {program : Activity ε α}
    {start : Recorded σ} {history : List Exchange} {request : Request}
    {next : request.Reply → Activity ε α} {before after : σ} {reply : request.Reply}
    (run : Run answers.recorded again program start (.ask request next) ⟨before, history⟩)
    (answered : answers request before reply after) :
    Run answers.recorded again program start (next reply)
      ⟨after, ⟨request, reply⟩ :: history⟩ :=
  run.answer ⟨answered, rfl⟩

theorem Run.mono {others : Answering σ} {again : Activity ε α → Prop}
    {program rest : Activity ε α} {start state : σ}
    (within : ∀ {request before reply after}, answers request before reply after →
      others request before reply after)
    (run : Run answers again program start rest state) :
    Run others again program start rest state := by
  induction run with
  | begin => exact .begin
  | answer _ answered ih => exact ih.answer (within answered)
  | restart _ chosen ih => exact ih.restart chosen

/-- If allowed steps establish an invariant and all programs take allowed steps from it, then
so does whatever is left of a run. -/
theorem Run.keeps {inv : σ → Prop} {again : Activity ε α → Prop} {program rest : Activity ε α}
    {start state : σ} {post : Except ε α → σ → Prop}
    (closed : ∀ before after, allowed before after → inv after) (initial : inv start)
    (first : program.Keeps answers allowed post start)
    (others : ∀ other, again other → ∀ state, inv state →
      other.Keeps answers allowed post state)
    (run : Run answers again program start rest state) :
    inv state ∧ rest.Keeps answers allowed post state := by
  induction run with
  | begin => exact ⟨initial, first⟩
  | answer _ answered ih =>
      obtain ⟨step, rest⟩ := ih.2 _ _ answered
      exact ⟨closed _ _ step, rest⟩
  | restart _ chosen ih => exact ⟨ih.1, others _ chosen _ ih.1⟩

theorem Run.keeps_once {program rest : Activity ε α} {start state : σ}
    {post : Except ε α → σ → Prop} (keeps : program.Keeps answers allowed post start)
    (run : Run answers (fun _ => False) program start rest state) :
    rest.Keeps answers allowed post state := by
  have always : True ∧ rest.Keeps answers allowed post state :=
    run.keeps (fun _ _ _ => trivial) trivial keeps fun _ never => never.elim
  exact always.2

end Activity

end Settlement
