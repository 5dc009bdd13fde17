import Settlement.Proofs.WorkerPool.Turns
import Settlement.WorkerPool.Timeline

/-!
When storage is polled. A load puts the next one off before it begins, in the same critical
section in which it finds the queue empty, so however long loads take and however they end, two
of them never begin closer together than the delay. Until storage is ready nobody leaves the
waiting room, so nothing is told of that time.
-/

namespace Settlement.WorkerPool

variable {δ ι ε : Type}

def Event.time : Event δ ε → Nat
  | .loadStarted time | .loaded time _ | .handed time _ | .started time _ | .reported time _ _
  | .released time _ => time

def Event.loadStart? : Event δ ε → Option Nat
  | .loadStarted time => some time
  | _ => none

def loadTimes (history : List (Event δ ε)) : List Nat := history.filterMap Event.loadStart?

namespace System

variable [DecidableEq ι] [Identified δ ι] {delay workers : Nat} {action : Action δ ε}
  {actions : List (Action δ ε)} {system after : System δ ι ε}

theorem Turn.time {worker : Nat} {before next : Phase δ ε} {pool : Pool δ ι}
    {events : List (Event δ ε)} (turn : Turn delay worker system action before next pool events) :
    ∀ event ∈ events, event.time = system.now := by
  cases turn <;> simp [Event.time]

theorem Turn.loads {worker : Nat} {before next : Phase δ ε} {pool : Pool δ ι}
    {events : List (Event δ ε)} (turn : Turn delay worker system action before next pool events) :
    loadTimes events = [] ∧ pool.nextLoadAt = system.pool.nextLoadAt ∨
    loadTimes events = [system.now] ∧ before = .idle ∧ system.pool.queue = [] ∧
      system.pool.nextLoadAt ≤ system.now ∧ pool.nextLoadAt = system.now + delay := by
  have enqueue : ∀ (directives : List δ) (pool : Pool δ ι),
      (pool.enqueue directives).nextLoadAt = pool.nextLoadAt := by
    intro directives
    induction directives with
    | nil => exact fun _ => rfl
    | cons directive rest ih =>
        intro pool
        unfold Pool.enqueue
        split <;> exact ih _
  have receive : ∀ result : Except ε (List δ),
      (system.pool.receive result).nextLoadAt = system.pool.nextLoadAt := by
    rintro (failure | directives)
    · rfl
    · exact enqueue directives _
  cases turn with
  | load empty due => exact .inr ⟨rfl, rfl, empty, due, rfl⟩
  | receive | receiveNone => exact .inl ⟨rfl, receive _⟩
  | _ => exact .inl ⟨rfl, rfl⟩

/-- No load began less than the delay before another one or before the next that may begin. -/
structure Spaced (delay : Nat) (system : System δ ι ε) : Prop where
  apart : (loadTimes system.history).Pairwise fun later earlier => earlier + delay ≤ later
  next : ∀ time ∈ loadTimes system.history, time + delay ≤ system.pool.nextLoadAt

theorem Stepped.spaced (stepped : system.Stepped delay action after)
    (spaced : system.Spaced delay) : after.Spaced delay := by
  cases stepped with
  | markReady | wait => exact ⟨spaced.apart, spaced.next⟩
  | @turn worker action before next pool events there turn =>
      have told : loadTimes (events ++ system.history) =
          loadTimes events ++ loadTimes system.history := List.filterMap_append
      rcases turn.loads with ⟨none, same⟩ | ⟨one, _, _, due, putOff⟩
      · rw [none, List.nil_append] at told
        constructor
        · rw [told]
          exact spaced.apart
        · rw [told, same]
          exact spaced.next
      · rw [one, List.singleton_append] at told
        have waited : ∀ time ∈ loadTimes system.history, time + delay ≤ system.now :=
          fun time member => Nat.le_trans (spaced.next time member) due
        constructor
        · rw [told]
          exact List.pairwise_cons.mpr ⟨waited, spaced.apart⟩
        · rw [told, putOff]
          intro time member
          rcases List.mem_cons.mp member with rfl | earlier
          · exact Nat.le_refl _
          · exact Nat.le_trans (waited time earlier) (Nat.le_add_right _ _)

theorem Reachable.spaced (reachable : Reachable delay workers system) : system.Spaced delay := by
  induction reachable with
  | start => exact ⟨.nil, by simp [new, loadTimes]⟩
  | step action _ stepped ih => exact (step_stepped stepped).spaced ih

/-- As long as storage is not ready every worker waits for it, and nothing has happened. -/
def Unready (system : System δ ι ε) : Prop :=
  system.isReady = false → system.history = [] ∧ ∀ phase ∈ system.workers, phase = .waiting

theorem Stepped.unready (stepped : system.Stepped delay action after) (unready : system.Unready) :
    after.Unready := by
  cases stepped with
  | markReady => nofun
  | wait => exact unready
  | turn there turn =>
      intro early
      have waits := (unready early).2 _ (List.mem_of_getElem? there)
      subst waits
      cases turn with
      | enter ready => cases early.symm.trans ready

theorem Reachable.unready (reachable : Reachable delay workers system) : system.Unready := by
  induction reachable with
  | start => exact fun _ => ⟨rfl, fun _ member => List.eq_of_mem_replicate member⟩
  | step action _ stepped ih => exact (step_stepped stepped).unready ih

theorem run_later (ran : system.run? delay actions = some after) :
    system.now ≤ after.now ∧ ∃ events, after.history = events ++ system.history ∧
      ∀ event ∈ events, system.now ≤ event.time := by
  refine run_induction (fun _ after => system.now ≤ after.now ∧ ∃ events,
    after.history = events ++ system.history ∧ ∀ event ∈ events, system.now ≤ event.time)
    ⟨Nat.le_refl _, [], rfl, by simp⟩ ?_ ran
  rintro done middle action final _ ⟨since, events, told, times⟩ stepped
  cases step_stepped stepped with
  | markReady => exact ⟨since, events, told, times⟩
  | wait later => exact ⟨Nat.le_trans since later, events, told, times⟩
  | @turn _ _ _ _ _ more there turn =>
      refine ⟨since, more ++ events, by simp [told], fun event member => ?_⟩
      rcases List.mem_append.mp member with new | old
      · rw [turn.time event new]
        exact since
      · exact times event old

/-- However many workers there are, however long the loads and the processing take and whatever
comes of them, no two loads begin less than the delay apart, a load begins at an empty queue
only, and nothing happens before storage is ready. -/
theorem loads_keep_their_distance (reachable : Reachable delay workers system) :
    (loadTimes system.history).Pairwise (fun later earlier => earlier + delay ≤ later) ∧
    (∀ action after, system.step? delay action = some after →
      loadTimes after.history ≠ loadTimes system.history →
        loadTimes after.history = system.now :: loadTimes system.history ∧
        system.pool.queue = [] ∧ system.isReady = true) ∧
    (system.isReady = false → system.history = [] ∧
      ∀ actions after, system.run? delay actions = some after →
        ∀ event ∈ after.history, system.now ≤ event.time) := by
  refine ⟨reachable.spaced.apart, ?_, fun early => ?_⟩
  · intro action after stepped begun
    cases step_stepped stepped with
    | markReady | wait => exact (begun rfl).elim
    | @turn worker action before next pool events there turn =>
        have told : loadTimes (events ++ system.history) =
            loadTimes events ++ loadTimes system.history := List.filterMap_append
        rcases turn.loads with ⟨none, _⟩ | ⟨one, idle, empty, _⟩
        · rw [none] at told
          exact (begun told).elim
        · rw [one] at told
          refine ⟨told, empty, ?_⟩
          by_contra early
          have waits := (reachable.unready (by simpa using early)).2 _
            (List.mem_of_getElem? there)
          cases idle.symm.trans waits
  · obtain ⟨nothing, _⟩ := reachable.unready early
    refine ⟨nothing, fun actions after ran event member => ?_⟩
    obtain ⟨_, events, told, times⟩ := run_later ran
    rw [told, nothing, List.append_nil] at member
    exact times event member

/-- The first load takes longer than the delay and fails. The second worker is sent away at once
and begins the second load while the first one still goes on. -/
theorem second_load_waits_for_the_delay :
    ∃ system : JobSystem, Reachable 10 2 system ∧ loadTimes system.history = [13, 3] ∧
      (loadTimes system.history).Pairwise (fun later earlier => earlier + 10 ≤ later) := by
  let actions : List (Action Job Unit) := [.wait 2, .markReady, .wake 0, .wait 3, .order 0, .wake 1,
    .order 1, .wait 13, .wake 1, .order 1, .wait 15, .read 0 (.error ()), .settle 0]
  have runs : ((new 2 : JobSystem).run? 10 actions).map (fun system =>
      loadTimes system.history) = some [13, 3] := by
    decide +kernel
  obtain ⟨system, ran, times⟩ := Option.map_eq_some_iff.mp runs
  have reachable : Reachable 10 2 system := .run .start ran
  exact ⟨system, reachable, times, (loads_keep_their_distance reachable).1⟩

end System

end Settlement.WorkerPool
