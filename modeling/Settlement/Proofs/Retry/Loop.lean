import Settlement.Retry.Run

/-!
A retried operation as a loop. A round calls the operation once, and what it does then is decided
by the outcome and by a counter of retries in sixty-four bits, which goes up only while it is
below the number allowed. The loop does the calls and sleeps of the run, one after the other, and
how many there are depends on the first success and that number alone.
-/

namespace Settlement.Retry

inductive Act where
  | call
  | sleep (span : Span)
  deriving DecidableEq

inductive Loop.Fate (ε α : Type) where
  | going
  | ended (ending : Ending ε α)
  | overflown

structure Loop (ε α : Type) where
  attempt : UInt64
  trace : List Act
  fate : Loop.Fate ε α

namespace Run

variable {ε α : Type} (span : Span) (run : Run ε α)

/-- What a run does: each wait follows a failed call, and the last call is not waited after. -/
def trace : List Act := run.waits.flatMap (fun span => [.call, .sleep span]) ++ [.call]

theorem count_call_trace : run.trace.count .call = run.calls := by
  have each : ∀ waits : List Span,
      (waits.flatMap fun span => [Act.call, Act.sleep span]).count .call = waits.length := by
    intro waits
    induction waits with
    | nil => rfl
    | cons span rest ih => rw [List.flatMap_cons, List.count_append, ih, Nat.add_comm]; rfl
  rw [trace, List.count_append, each]
  rfl

theorem calls_waited : (run.waited span).calls = run.calls + 1 := rfl

theorem trace_waited : (run.waited span).trace = [.call, .sleep span] ++ run.trace := rfl

theorem ending_waited : (run.waited span).ending = run.ending := rfl

end Run

section Rounds

variable {ε α : Type} {delay : Nat → Option Span} {outcome : Nat → Except ε α} {made left : Nat}

theorem runFrom_ok {value : α} (told : outcome made = .ok value) :
    runFrom delay outcome made left = ⟨[], .returned (.ok value)⟩ := by
  unfold runFrom
  rw [told]

variable {cause : ε}

theorem runFrom_exhausted (told : outcome made = .error cause) :
    runFrom delay outcome made 0 = ⟨[], .returned (.error cause)⟩ := by
  unfold runFrom
  rw [told]

theorem runFrom_noDelay (told : outcome made = .error cause) (none : delay (made + 1) = none) :
    runFrom delay outcome made (left + 1) = ⟨[], .noDelay⟩ := by
  rw [runFrom.eq_def, told]
  simp only [none]

theorem runFrom_retry {span : Span} (told : outcome made = .error cause)
    (delayed : delay (made + 1) = some span) : runFrom delay outcome made (left + 1) =
      (runFrom delay outcome (made + 1) left).waited span := by
  rw [runFrom.eq_def, told]
  simp only [delayed]

end Rounds

namespace Loop

variable {ε α : Type} (delay : Nat → Option Span) (outcome : Nat → Except ε α)
  (maxRetries : UInt64)

def start : Loop ε α := ⟨0, [], .going⟩

def calls (loop : Loop ε α) : Nat := loop.trace.count .call

def retry (loop : Loop ε α) : Loop ε α :=
  if loop.attempt.toNat + 1 < UInt64.size then
    match delay (loop.attempt + 1).toNat with
    | none => ⟨loop.attempt + 1, loop.trace ++ [.call], .ended .noDelay⟩
    | some span => ⟨loop.attempt + 1, loop.trace ++ [.call, .sleep span], .going⟩
  else ⟨loop.attempt, loop.trace ++ [.call], .overflown⟩

def round (loop : Loop ε α) : Loop ε α :=
  match outcome loop.calls with
  | .ok value =>
    { loop with trace := loop.trace ++ [.call], fate := .ended (.returned (.ok value)) }
  | .error cause =>
    if loop.attempt < maxRetries then loop.retry delay
    else { loop with trace := loop.trace ++ [.call], fate := .ended (.returned (.error cause)) }

def step? (loop : Loop ε α) : Option (Loop ε α) :=
  match loop.fate with
  | .going => some (loop.round delay outcome maxRetries)
  | _ => none

def after? (loop : Loop ε α) : (rounds : Nat) → Option (Loop ε α)
  | 0 => some loop
  | rounds + 1 => (loop.step? delay outcome maxRetries).bind fun next => next.after? rounds

end Loop

namespace Loop

variable {ε α : Type} {delay : Nat → Option Span} {outcome : Nat → Except ε α}
  {maxRetries : UInt64} {loop next : Loop ε α}

section Counter

theorem toNat_succ {attempt : UInt64} (below : attempt < maxRetries) :
    attempt.toNat + 1 < UInt64.size ∧ (attempt + 1).toNat = attempt.toNat + 1 := by
  have less : attempt.toNat < maxRetries.toNat := below
  have most : maxRetries.toNat < UInt64.size := maxRetries.toNat_lt_size
  have room : attempt.toNat + 1 < UInt64.size := by omega
  refine ⟨room, ?_⟩
  rw [UInt64.toNat_add]
  exact Nat.mod_eq_of_lt room

/-- The counter has not passed the number of retries allowed, and found room whenever it went
up. -/
structure Fits (maxRetries : UInt64) (loop : Loop ε α) : Prop where
  within : loop.attempt ≤ maxRetries
  room : loop.fate ≠ .overflown

theorem fits_start : Fits maxRetries (start : Loop ε α) :=
  ⟨UInt64.zero_le, nofun⟩

theorem fits_retry (below : loop.attempt < maxRetries) : Fits maxRetries (loop.retry delay) := by
  obtain ⟨room, succ⟩ := toNat_succ below
  have within : loop.attempt + 1 ≤ maxRetries := by
    rw [UInt64.le_iff_toNat_le, succ]
    exact below
  rw [retry, if_pos room]
  split <;> exact ⟨within, nofun⟩

theorem Fits.step (fits : Fits maxRetries loop)
    (stepped : loop.step? delay outcome maxRetries = some next) : Fits maxRetries next := by
  unfold step? at stepped
  split at stepped <;> cases stepped
  unfold round
  split
  · exact ⟨fits.within, nofun⟩
  · split
    · rename_i below
      exact fits_retry below
    · exact ⟨fits.within, nofun⟩

theorem Fits.after {rounds : Nat} (fits : Fits maxRetries loop)
    (reached : loop.after? delay outcome maxRetries rounds = some next) :
    Fits maxRetries next := by
  induction rounds generalizing loop with
  | zero =>
      cases reached
      exact fits
  | succ rounds ih =>
      obtain ⟨middle, stepped, reached⟩ := Option.bind_eq_some_iff.mp reached
      exact ih (fits.step stepped) reached

end Counter

section Rounds

theorem after?_add (first more : Nat) : loop.after? delay outcome maxRetries (first + more) =
    (loop.after? delay outcome maxRetries first).bind fun middle =>
      middle.after? delay outcome maxRetries more := by
  induction first generalizing loop with
  | zero => simp [after?]
  | succ first ih =>
      rw [Nat.succ_add, after?, after?, Option.bind_assoc]
      exact Option.bind_congr fun middle _ => ih

theorem rounds_le {rounds last : Nat} {ended : Loop ε α} {ending : Ending ε α}
    (ends : loop.after? delay outcome maxRetries last = some ended)
    (fate : ended.fate = .ended ending)
    (reached : loop.after? delay outcome maxRetries rounds = some next) : rounds ≤ last := by
  rcases Nat.lt_or_ge last rounds with beyond | within
  · obtain ⟨more, rfl⟩ : ∃ more, rounds = last + (more + 1) := ⟨rounds - last - 1, by omega⟩
    rw [after?_add, ends, Option.bind_some, after?, step?, fate] at reached
    cases reached
  · exact within

theorem step?_ok {value : α} (going : loop.fate = .going)
    (told : outcome loop.calls = .ok value) : loop.step? delay outcome maxRetries =
      some ⟨loop.attempt, loop.trace ++ [.call], .ended (.returned (.ok value))⟩ := by
  simp only [step?, going, round, told]

variable {cause : ε}

theorem step?_exhausted (going : loop.fate = .going) (told : outcome loop.calls = .error cause)
    (full : ¬ loop.attempt < maxRetries) : loop.step? delay outcome maxRetries =
      some ⟨loop.attempt, loop.trace ++ [.call], .ended (.returned (.error cause))⟩ := by
  simp only [step?, going, round, told, if_neg full]

theorem step?_noDelay (going : loop.fate = .going) (told : outcome loop.calls = .error cause)
    (below : loop.attempt < maxRetries) (none : delay (loop.attempt.toNat + 1) = none) :
    loop.step? delay outcome maxRetries =
      some ⟨loop.attempt + 1, loop.trace ++ [.call], .ended .noDelay⟩ := by
  obtain ⟨room, succ⟩ := toNat_succ below
  simp only [step?, going, round, told, if_pos below, retry, if_pos room, succ, none]

theorem step?_retry {span : Span} (going : loop.fate = .going)
    (told : outcome loop.calls = .error cause) (below : loop.attempt < maxRetries)
    (delayed : delay (loop.attempt.toNat + 1) = some span) :
    loop.step? delay outcome maxRetries =
      some ⟨loop.attempt + 1, loop.trace ++ [.call, .sleep span], .going⟩ := by
  obtain ⟨room, succ⟩ := toNat_succ below
  simp only [step?, going, round, told, if_pos below, retry, if_pos room, succ, delayed]

/-- The loop does what this run does, with a round for each call. -/
def Follows (delay : Nat → Option Span) (outcome : Nat → Except ε α) (maxRetries : UInt64)
    (loop : Loop ε α) (run : Run ε α) : Prop :=
  ∃ attempt, loop.after? delay outcome maxRetries run.calls =
    some ⟨attempt, loop.trace ++ run.trace, .ended run.ending⟩

theorem follows_end {attempt : UInt64} {ending : Ending ε α}
    (stepped : loop.step? delay outcome maxRetries =
      some ⟨attempt, loop.trace ++ [.call], .ended ending⟩) :
    loop.Follows delay outcome maxRetries ⟨[], ending⟩ := by
  refine ⟨attempt, ?_⟩
  change (loop.step? delay outcome maxRetries).bind _ = _
  rw [stepped]
  rfl

theorem Follows.waited {attempt : UInt64} {span : Span} {run : Run ε α}
    (stepped : loop.step? delay outcome maxRetries =
      some ⟨attempt, loop.trace ++ [.call, .sleep span], .going⟩)
    (follows : Follows delay outcome maxRetries
      ⟨attempt, loop.trace ++ [.call, .sleep span], .going⟩ run) :
    loop.Follows delay outcome maxRetries (run.waited span) := by
  obtain ⟨last, reached⟩ := follows
  refine ⟨last, ?_⟩
  rw [Run.calls_waited, Run.trace_waited, Run.ending_waited, after?, stepped, Option.bind_some,
    reached, List.append_assoc]

theorem follows_runFrom (left : Nat) (going : loop.fate = .going)
    (counted : loop.attempt.toNat = loop.calls) (leaves : loop.calls + left = maxRetries.toNat) :
    loop.Follows delay outcome maxRetries (runFrom delay outcome loop.calls left) := by
  -- On the retries left: the counter is the number of calls and cannot pass the number allowed.
  induction left generalizing loop with
  | zero =>
      have full : ¬ loop.attempt < maxRetries := by
        rw [UInt64.lt_iff_toNat_lt]
        omega
      cases told : outcome loop.calls with
      | ok value =>
          rw [runFrom_ok told]
          exact follows_end (step?_ok going told)
      | error cause =>
          rw [runFrom_exhausted told]
          exact follows_end (step?_exhausted going told full)
  | succ left ih =>
      have below : loop.attempt < maxRetries := by
        rw [UInt64.lt_iff_toNat_lt]
        omega
      cases told : outcome loop.calls with
      | ok value =>
          rw [runFrom_ok told]
          exact follows_end (step?_ok going told)
      | error cause =>
          cases delayed : delay (loop.calls + 1) with
          | none =>
              rw [runFrom_noDelay told delayed]
              exact follows_end (step?_noDelay going told below (counted ▸ delayed))
          | some span =>
              rw [runFrom_retry told delayed]
              have stepped := step?_retry going told below (counted ▸ delayed)
              refine Follows.waited stepped ?_
              let next : Loop ε α :=
                ⟨loop.attempt + 1, loop.trace ++ [.call, .sleep span], .going⟩
              have more : next.calls = loop.calls + 1 := List.count_append
              have succ : next.attempt.toNat = loop.attempt.toNat + 1 := (toNat_succ below).2
              have leaves : next.calls + left = maxRetries.toNat := by omega
              rw [← more]
              exact @ih next rfl (by omega) leaves

end Rounds

end Loop

section Stops

variable {ε α : Type} {delay : Nat → Option Span} {outcome : Nat → Except ε α} {span : Nat → Span}
  {made left failures : Nat}

theorem runFrom_stops
    (fails : ∀ call < failures, ∃ cause, outcome (made + call) = .error cause)
    (stops : left < failures ∨ ∃ value, outcome (made + failures) = .ok value)
    (defined : ∀ retry < min failures left,
      delay (made + retry + 1) = some (span (made + retry + 1))) :
    runFrom delay outcome made left =
      ⟨(List.range (min failures left)).map fun retry => span (made + retry + 1),
        .returned (outcome (made + min failures left))⟩ := by
  -- A failed call takes one from the failures to come and one from the retries that are left.
  induction left generalizing made failures with
  | zero =>
      rw [Nat.min_zero]
      cases told : outcome made with
      | ok value =>
          rw [runFrom_ok told, ← told]
          rfl
      | error cause =>
          rw [runFrom_exhausted told, ← told]
          rfl
  | succ left ih =>
      cases failures with
      | zero =>
          obtain ⟨value, told⟩ : ∃ value, outcome made = .ok value :=
            stops.resolve_left (Nat.not_lt_zero _)
          rw [runFrom_ok told, Nat.zero_min, ← told]
          rfl
      | succ failures =>
          obtain ⟨cause, told⟩ : ∃ cause, outcome made = .error cause := fails 0 (Nat.succ_pos _)
          rw [Nat.add_min_add_right] at defined ⊢
          have delayed : delay (made + 1) = some (span (made + 1)) := defined 0 (Nat.succ_pos _)
          have next : ∀ call, made + (call + 1) = made + 1 + call := fun call => by omega
          have later := @ih (made + 1) failures
            (fun call less => next call ▸ fails (call + 1) (Nat.succ_lt_succ less))
            (stops.imp Nat.lt_of_succ_lt_succ (next failures ▸ id))
            (fun retry less => next retry ▸ defined (retry + 1) (Nat.succ_lt_succ less))
          have shifted : (fun retry => span (made + 1 + retry + 1)) =
              (fun retry => span (made + retry + 1)) ∘ Nat.succ :=
            funext fun retry => congrArg (fun number => span (number + 1)) (next retry).symm
          rw [runFrom_retry told delayed, later, shifted, List.range_succ_eq_map, List.map_cons,
            List.map_map, next (min failures left)]
          rfl

variable {maxRetries : UInt64}

theorem follows_run : (Loop.start : Loop ε α).Follows delay outcome maxRetries
    (run delay outcome maxRetries.toNat) :=
  Loop.follows_runFrom maxRetries.toNat rfl rfl (Nat.zero_add _)

/-- An operation fails some number of times before it succeeds, or more often than there may be
retries. The run makes one call more than the lesser of these numbers and ends with what the last
call brought, which is the first success or else the last failure. The loop gets there in as many
rounds and does nothing after that. Between two calls, and nowhere else, it sleeps as long as the
policy says for the retries one, two and so on, and whatever happens its counter has room. -/
theorem retries_stop_in_time
    (fails : ∀ call < failures, ∃ cause, outcome call = .error cause)
    (stops : maxRetries.toNat < failures ∨ ∃ value, outcome failures = .ok value)
    (defined : ∀ retry < min failures maxRetries.toNat,
      delay (retry + 1) = some (span (retry + 1))) :
    let last := min failures maxRetries.toNat
    let waits := (List.range last).map fun retry => span (retry + 1)
    run delay outcome maxRetries.toNat = ⟨waits, .returned (outcome last)⟩ ∧
    (∃ done : Loop ε α, Loop.start.after? delay outcome maxRetries (last + 1) = some done ∧
      done.fate = .ended (.returned (outcome last)) ∧ done.calls = last + 1 ∧
      done.trace = waits.flatMap (fun span => [.call, .sleep span]) ++ [.call]) ∧
    ∀ rounds (loop : Loop ε α), Loop.start.after? delay outcome maxRetries rounds = some loop →
      rounds ≤ last + 1 ∧ loop.attempt ≤ maxRetries ∧ loop.fate ≠ .overflown := by
  intro last waits
  have ran : run delay outcome maxRetries.toNat = ⟨waits, .returned (outcome last)⟩ := by
    have stopped := @runFrom_stops _ _ delay outcome span 0 maxRetries.toNat failures
    simp only [Nat.zero_add] at stopped
    exact stopped fails stops defined
  obtain ⟨attempt, reached⟩ : Loop.start.Follows delay outcome maxRetries _ :=
    ran ▸ follows_run
  have rounds : (Run.mk waits (.returned (outcome last))).calls = last + 1 := by
    rw [Run.calls, List.length_map, List.length_range]
  have counted := Run.count_call_trace (Run.mk waits (.returned (outcome last)))
  rw [rounds] at reached counted
  refine ⟨ran, ⟨_, reached, rfl, counted, rfl⟩, ?_⟩
  intro rounds loop after
  have fits := Loop.fits_start.after after
  exact ⟨Loop.rounds_le reached rfl after, fits.within, fits.room⟩

end Stops

def flaky : Nat → Except String Nat
  | 0 => .error "boom"
  | call => .ok call

def longer (retry : Nat) : Option Span := some (.ofSeconds retry)

/-- The second call succeeds, and there could be as many retries as the counter has numbers. -/
theorem one_failure_is_retried_once :
    (∀ call < 1, ∃ cause, flaky call = .error cause) ∧ (∃ value, flaky 1 = .ok value) ∧
    (∀ retry < 1, longer (retry + 1) = some (.ofSeconds (retry + 1))) ∧
    run longer flaky 18446744073709551615 = ⟨[.ofSeconds 1], .returned (.ok 1)⟩ := by
  have fails : ∀ call < 1, ∃ cause, flaky call = .error cause := by
    intro call less
    rw [Nat.lt_one_iff.mp less]
    exact ⟨"boom", rfl⟩
  obtain ⟨ran, _⟩ := @retries_stop_in_time _ _ longer flaky Span.ofSeconds 1
    18446744073709551615 fails (.inr ⟨1, rfl⟩) (fun retry _ => rfl)
  exact ⟨fails, ⟨1, rfl⟩, fun retry _ => rfl, ran⟩

end Settlement.Retry
