import Settlement.Proofs.Activity.Safety

/-!
Activities with marks between their questions. A mark asks nothing; it only tells a history
how far the activity has come. Erasing the marks gives the activity back, and every run of
what is left is a run with marks.
-/

namespace Settlement

inductive Marked (μ ε α : Type) where
  | done (result : Except ε α)
  | mark (event : μ) (next : Marked μ ε α)
  | ask (request : Request) (next : request.Reply → Marked μ ε α)

namespace Marked

variable {μ σ ε α β : Type}

def bind : Marked μ ε α → (α → Marked μ ε β) → Marked μ ε β
  | .done (.ok value), next => next value
  | .done (.error failure), _ => .done (.error failure)
  | .mark event rest, next => .mark event (rest.bind next)
  | .ask request answer, next => .ask request fun reply => (answer reply).bind next

instance : Monad (Marked μ ε) where
  pure value := .done (.ok value)
  bind := bind

def attempt : Marked μ ε α → (Except ε α → Marked μ ε β) → Marked μ ε β
  | .done result, next => next result
  | .mark event rest, next => .mark event (rest.attempt next)
  | .ask request answer, next => .ask request fun reply => (answer reply).attempt next

def pass (event : μ) : Marked μ ε Unit := .mark event (.done (.ok ()))

def ofActivity : Activity ε α → Marked μ ε α
  | .done result => .done result
  | .ask request next => .ask request fun reply => ofActivity (next reply)

def erase : Marked μ ε α → Activity ε α
  | .done result => .done result
  | .mark _ next => next.erase
  | .ask request next => .ask request fun reply => (next reply).erase

theorem erase_ofActivity (activity : Activity ε α) :
    (ofActivity activity : Marked μ ε α).erase = activity := by
  induction activity with
  | done result => rfl
  | ask request next ih => simp only [ofActivity, erase, ih]

theorem erase_bind (first : Marked μ ε α) (next : α → Marked μ ε β) :
    (first >>= next).erase = first.erase >>= fun value => (next value).erase := by
  change (first.bind next).erase = first.erase.bind fun value => (next value).erase
  induction first with
  | done result => cases result <;> rfl
  | mark event rest ih => simpa only [bind, erase] using ih
  | ask request answer ih => simp only [bind, erase, Activity.bind, ih]

theorem erase_attempt (first : Marked μ ε α) (next : Except ε α → Marked μ ε β) :
    (first.attempt next).erase = first.erase.attempt fun result => (next result).erase := by
  induction first with
  | done result => rfl
  | mark event rest ih => simpa only [attempt, erase] using ih
  | ask request answer ih => simp only [attempt, erase, Activity.attempt, ih]

section Keeps

variable {answers : Answering σ} {note : μ → σ → σ} {allowed : σ → σ → Prop}

def Keeps (answers : Answering σ) (note : μ → σ → σ) (allowed : σ → σ → Prop)
    (post : Except ε α → σ → Prop) : Marked μ ε α → σ → Prop
  | .done result, state => post result state
  | .mark event next, state =>
      allowed state (note event state) ∧ next.Keeps answers note allowed post (note event state)
  | .ask request next, state => ∀ reply after, answers request state reply after →
      allowed state after ∧ (next reply).Keeps answers note allowed post after

theorem Keeps.mono {post final : Except ε α → σ → Prop} {program : Marked μ ε α} {state : σ}
    (keeps : program.Keeps answers note allowed post state)
    (implies : ∀ result state, post result state → final result state) :
    program.Keeps answers note allowed final state := by
  induction program generalizing state with
  | done result => exact implies result state keeps
  | mark event next ih => exact ⟨keeps.1, ih keeps.2⟩
  | ask request next ih =>
      intro reply after answered
      obtain ⟨step, rest⟩ := keeps reply after answered
      exact ⟨step, ih reply rest⟩

theorem keeps_ofActivity {post : Except ε α → σ → Prop} (activity : Activity ε α) (state : σ) :
    (ofActivity activity : Marked μ ε α).Keeps answers note allowed post state ↔
      activity.Keeps answers allowed post state := by
  induction activity generalizing state with
  | done result => exact Iff.rfl
  | ask request next ih => simp only [ofActivity, Keeps, Activity.Keeps, ih]

theorem Keeps.attempt {middle : Except ε α → σ → Prop} {post : Except ε β → σ → Prop}
    {first : Marked μ ε α} {next : Except ε α → Marked μ ε β} {state : σ}
    (keeps : first.Keeps answers note allowed middle state)
    (rest : ∀ result state, middle result state →
      (next result).Keeps answers note allowed post state) :
    (first.attempt next).Keeps answers note allowed post state := by
  induction first generalizing state with
  | done result => exact rest result state keeps
  | mark event after ih => exact ⟨keeps.1, ih keeps.2⟩
  | ask request answer ih =>
      intro reply after answered
      obtain ⟨step, remaining⟩ := keeps reply after answered
      exact ⟨step, ih reply remaining⟩

theorem Keeps.bind {middle : Except ε α → σ → Prop} {post : Except ε β → σ → Prop}
    {first : Marked μ ε α} {next : α → Marked μ ε β} {state : σ}
    (keeps : first.Keeps answers note allowed middle state)
    (succeeds : ∀ value state, middle (.ok value) state →
      (next value).Keeps answers note allowed post state)
    (fails : ∀ failure state, middle (.error failure) state → post (.error failure) state) :
    (first >>= next).Keeps answers note allowed post state := by
  change (first.bind next).Keeps answers note allowed post state
  induction first generalizing state with
  | done result =>
      cases result with
      | ok value => exact succeeds value state keeps
      | error failure => exact fails failure state keeps
  | mark event after ih => exact ⟨keeps.1, ih keeps.2⟩
  | ask request answer ih =>
      intro reply after answered
      obtain ⟨step, remaining⟩ := keeps reply after answered
      exact ⟨step, ih reply remaining⟩

/-- What may be left of one of some programs, any of which may be begun at any point. -/
inductive Run (answers : Answering σ) (note : μ → σ → σ) (programs : Marked μ ε α → Prop)
    (start : σ) : Marked μ ε α → σ → Prop where
  | begin {program : Marked μ ε α} : programs program →
      Run answers note programs start program start
  | mark {event : μ} {next : Marked μ ε α} {state : σ} :
      Run answers note programs start (.mark event next) state →
      Run answers note programs start next (note event state)
  | answer {request : Request} {next : request.Reply → Marked μ ε α} {before after : σ}
      {reply : request.Reply} :
      Run answers note programs start (.ask request next) before →
      answers request before reply after → Run answers note programs start (next reply) after
  | restart {rest other : Marked μ ε α} {state : σ} :
      Run answers note programs start rest state → programs other →
      Run answers note programs start other state

theorem Run.mono {others : Answering σ} {programs : Marked μ ε α → Prop} {start state : σ}
    {rest : Marked μ ε α}
    (within : ∀ {request before reply after}, answers request before reply after →
      others request before reply after)
    (run : Run answers note programs start rest state) :
    Run others note programs start rest state := by
  induction run with
  | begin chosen => exact .begin chosen
  | mark _ ih => exact ih.mark
  | answer _ answered ih => exact ih.answer (within answered)
  | restart _ chosen ih => exact ih.restart chosen

theorem Run.keeps {inv : σ → Prop} {programs : Marked μ ε α → Prop} {start state : σ}
    {rest : Marked μ ε α} {post : Except ε α → σ → Prop}
    (closed : ∀ before after, allowed before after → inv after) (initial : inv start)
    (attempts : ∀ program, programs program → ∀ state, inv state →
      program.Keeps answers note allowed post state)
    (run : Run answers note programs start rest state) :
    inv state ∧ rest.Keeps answers note allowed post state := by
  induction run with
  | begin chosen => exact ⟨initial, attempts _ chosen _ initial⟩
  | mark _ ih => exact ⟨closed _ _ ih.2.1, ih.2.2⟩
  | answer _ answered ih =>
      obtain ⟨step, rest⟩ := ih.2 _ _ answered
      exact ⟨closed _ _ step, rest⟩
  | restart _ chosen ih => exact ⟨ih.1, attempts _ chosen _ ih.1⟩

end Keeps

section Lifting

variable {τ : Type} {base : Answering τ} {answers : Answering σ} {note : μ → σ → σ}
  {programs : Marked μ ε α → Prop} {view : σ → τ} {start : σ}

theorem Run.reach {left : Marked μ ε α} {state : σ} {request : Request}
    {next : request.Reply → Activity ε α}
    (quiet : ∀ event state, view (note event state) = view state)
    (run : Run answers note programs start left state) (asks : left.erase = .ask request next) :
    ∃ rest after, Run answers note programs start (.ask request rest) after ∧
      view after = view state ∧ ∀ reply, (rest reply).erase = next reply := by
  induction left generalizing state with
  | done result => cases asks
  | mark event left ih =>
      obtain ⟨rest, after, reached, same, erased⟩ := ih run.mark asks
      exact ⟨rest, after, reached, same.trans (quiet event state), erased⟩
  | ask other rest _ =>
      cases asks
      exact ⟨rest, state, run, rfl, fun _ => rfl⟩

/-- Every run of the erased programs comes from a run with marks. -/
theorem Run.lift {again : Activity ε α → Prop} {program rest : Activity ε α} {state : τ}
    (quiet : ∀ event state, view (note event state) = view state)
    (lifts : ∀ {request state reply after}, base request (view state) reply after →
      ∃ later, answers request state reply later ∧ view later = after)
    (covers : ∀ other, again other → ∃ marked, programs marked ∧ marked.erase = other)
    (chosen : again program) (run : Activity.Run base again program (view start) rest state) :
    ∃ left after, Run answers note programs start left after ∧ left.erase = rest ∧
      view after = state := by
  induction run with
  | begin =>
      obtain ⟨marked, member, erased⟩ := covers program chosen
      exact ⟨marked, start, .begin member, erased, rfl⟩
  | answer _ answered ih =>
      obtain ⟨left, middle, reached, erased, rfl⟩ := ih
      -- Marks before the question leave the view alone, so the same answer is possible.
      obtain ⟨rest, before, asked, same, erasedRest⟩ := reached.reach quiet erased
      rw [← same] at answered
      obtain ⟨after, replied, rfl⟩ := lifts answered
      exact ⟨_, after, asked.answer replied, erasedRest _, rfl⟩
  | restart _ begun ih =>
      obtain ⟨left, middle, reached, _, same⟩ := ih
      obtain ⟨marked, member, erased⟩ := covers _ begun
      exact ⟨marked, middle, reached.restart member, erased, same⟩

end Lifting

end Marked

end Settlement
