import Settlement.ReadySignal

/-!
Nobody sleeps through the signal. Whoever finds the flag not set took a ticket before the flag
was set, hence before everyone was notified, so a notification that wakes all earlier tickets
wakes this one as well, also if it comes before the waiter parks. Once everyone was notified
every waiter gets away with a few steps of its own.
-/

namespace Settlement.ReadySignal

theorem Notifier.strict_wakesAll : Notifier.strict.WakesAll := by
  intro calls ticket _ notified
  exact List.contains_iff_mem.mpr notified

def Action.isBy (index : Nat) : Action → Bool
  | .setFlag | .notifyAll => false
  | .takeTicket waiter | .look waiter | .park waiter | .wake waiter => waiter == index

def Waiter.stepsLeft : Waiter → Nat
  | .refused _ => 4
  | .parked _ => 3
  | .outside => 2
  | .holding _ => 1
  | .released => 0

theorem Waiter.stepsLeft_le (waiter : Waiter) : waiter.stepsLeft ≤ 4 := by
  cases waiter <;> simp [stepsLeft]

theorem Waiter.stepsLeft_pos {waiter : Waiter} (inside : waiter ≠ .released) :
    0 < waiter.stepsLeft := by
  cases waiter with
  | released => exact (inside rfl).elim
  | _ => exact Nat.zero_lt_succ _

/-- Whoever did not see the flag holds a ticket from before the notification. -/
def Waiter.Sound (state : State) : Waiter → Prop
  | .outside => True
  | .holding ticket => state.calls[ticket]? = some .giveTicket
  | .refused ticket | .parked ticket =>
      state.calls[ticket]? = some .giveTicket ∧
        (state.marker = .finished → .notifyAll ∈ state.calls.drop ticket)
  | .released => state.isRaised = true

namespace State

variable {notifier : Notifier} {waiters : Nat} {state after : State} {action : Action}
  {actions : List Action}

def run? (notifier : Notifier) (actions : List Action) (state : State) : Option State :=
  actions.foldlM (step? notifier) state

inductive Turn (notifier : Notifier) (state : State) (index : Nat) :
    Action → Waiter → Waiter → List Call → Prop where
  | takeTicket : Turn notifier state index (.takeTicket index) .outside
      (.holding state.calls.length) [.giveTicket]
  | leave {ticket : Nat} (raised : state.isRaised = true) :
      Turn notifier state index (.look index) (.holding ticket) .released []
  | stay {ticket : Nat} (unset : state.isRaised = false) :
      Turn notifier state index (.look index) (.holding ticket) (.refused ticket) []
  | park {ticket : Nat} :
      Turn notifier state index (.park index) (.refused ticket) (.parked ticket) []
  | wake {ticket : Nat} (awake : notifier.isAwake state.calls ticket = true) :
      Turn notifier state index (.wake index) (.parked ticket) .outside []

inductive Stepped (notifier : Notifier) (state : State) : Action → State → Prop where
  | setFlag (waiting : state.marker = .waiting) :
      Stepped notifier state .setFlag { state with isRaised := true, marker := .flagged }
  | notifyAll (flagged : state.marker = .flagged) :
      Stepped notifier state .notifyAll { state.call .notifyAll with marker := .finished }
  | turn {index : Nat} {action : Action} {before next : Waiter} {calls : List Call}
      (there : state.waiters[index]? = some before)
      (turn : Turn notifier state index action before next calls) :
      Stepped notifier state action { state with
        calls := state.calls ++ calls
        waiters := state.waiters.set index next }

theorem Turn.silent {index : Nat} {before next : Waiter}
    (there : state.waiters[index]? = some before)
    (turn : Turn notifier state index action before next []) :
    Stepped notifier state action (state.setWaiter index next) := by
  have stepped := Stepped.turn there turn
  rwa [List.append_nil] at stepped

theorem step_stepped (stepped : state.step? notifier action = some after) :
    Stepped notifier state action after := by
  cases action with
  | setFlag =>
      simp only [step?] at stepped
      split at stepped <;> cases stepped
      exact .setFlag ‹_›
  | notifyAll =>
      simp only [step?] at stepped
      split at stepped <;> cases stepped
      exact .notifyAll ‹_›
  | takeTicket index =>
      simp only [step?] at stepped
      split at stepped <;> cases stepped
      exact .turn ‹_› .takeTicket
  | look index =>
      simp only [step?] at stepped
      split at stepped <;> cases stepped
      cases raised : state.isRaised
      · exact Turn.silent ‹_› (.stay raised)
      · exact Turn.silent ‹_› (.leave raised)
  | park index =>
      simp only [step?] at stepped
      split at stepped <;> cases stepped
      exact Turn.silent ‹_› .park
  | wake index =>
      simp only [step?] at stepped
      split at stepped
      · split at stepped <;> cases stepped
        exact Turn.silent ‹_› (.wake ‹_›)
      · cases stepped

theorem Reachable.run (reachable : Reachable notifier waiters state)
    (ran : state.run? notifier actions = some after) : Reachable notifier waiters after := by
  induction actions generalizing state with
  | nil =>
      cases ran
      exact reachable
  | cons action rest ih =>
      obtain ⟨middle, stepped, ran⟩ := Option.bind_eq_some_iff.mp ran
      exact ih (.step action reachable stepped) ran

section Safety

theorem ticket_call {ticket : Nat} (given : state.calls[ticket]? = some .giveTicket)
    (calls : List Call) :
    (state.calls ++ calls)[ticket]? = some .giveTicket ∧
      (state.calls ++ calls).drop ticket = state.calls.drop ticket ++ calls := by
  have inside := (List.getElem?_eq_some_iff.mp given).1
  constructor
  · rw [List.getElem?_append_left inside]
    exact given
  · exact List.drop_append_of_le_length (Nat.le_of_lt inside)

theorem sound_call {waiter : Waiter} (sound : waiter.Sound state) (calls : List Call) :
    waiter.Sound { state with calls := state.calls ++ calls } := by
  cases waiter with
  | outside => trivial
  | holding ticket => exact (ticket_call sound calls).1
  | refused ticket | parked ticket =>
      obtain ⟨given, notified⟩ := sound
      obtain ⟨still, dropped⟩ := ticket_call given calls
      refine ⟨still, fun finished => ?_⟩
      rw [dropped]
      exact List.mem_append_left calls (notified finished)
  | released => exact sound

/-- The marker sets the flag first, and every waiter is where it may be. -/
structure Sound (state : State) : Prop where
  flag : state.isRaised = true ↔ state.marker ≠ .waiting
  waiters : ∀ waiter ∈ state.waiters, waiter.Sound state

theorem Turn.sound {index : Nat} {before next : Waiter} {calls : List Call}
    (turn : Turn notifier state index action before next calls) (sound : state.Sound)
    (there : before.Sound state) : next.Sound { state with calls := state.calls ++ calls } := by
  cases turn with
  | takeTicket => exact List.getElem?_concat_length
  | leave raised => exact raised
  | stay unset =>
      -- The flag is not set, so nobody was notified yet.
      refine ⟨(ticket_call there []).1, fun finished => ?_⟩
      have raised : state.isRaised = true := sound.flag.mpr (by rw [finished]; decide)
      cases unset.symm.trans raised
  | park => exact sound_call there []
  | wake => trivial

theorem Stepped.sound (stepped : Stepped notifier state action after) (sound : state.Sound) :
    after.Sound := by
  cases stepped with
  | setFlag waiting =>
      refine ⟨by simp, fun waiter member => ?_⟩
      have before := sound.waiters waiter member
      cases waiter with
      | outside => trivial
      | holding => exact before
      | refused | parked => exact ⟨before.1, nofun⟩
      | released => rfl
  | notifyAll flagged =>
      have raised : state.isRaised = true := sound.flag.mpr (by rw [flagged]; decide)
      refine ⟨by simp [State.call, raised], fun waiter member => ?_⟩
      have before := sound.waiters waiter member
      cases waiter with
      | outside => trivial
      | holding => exact (ticket_call before _).1
      | refused | parked =>
          obtain ⟨still, dropped⟩ := ticket_call before.1 [Call.notifyAll]
          -- The ticket is older than this call, whether its holder has parked yet or not.
          refine ⟨still, fun _ => ?_⟩
          change Call.notifyAll ∈ (state.calls ++ [Call.notifyAll]).drop _
          rw [dropped]
          exact List.mem_append_right _ List.mem_cons_self
      | released => exact raised
  | @turn index _ before next calls there turn =>
      refine ⟨sound.flag, fun waiter member => ?_⟩
      have own := sound.waiters before (List.mem_of_getElem? there)
      have now : waiter.Sound { state with calls := state.calls ++ calls } := by
        rcases List.mem_or_eq_of_mem_set member with other | rfl
        · exact sound_call (sound.waiters waiter other) calls
        · exact turn.sound sound own
      -- Where the others are does not matter to this waiter.
      cases waiter <;> exact now

theorem Reachable.sound (reachable : Reachable notifier waiters state) : state.Sound := by
  induction reachable with
  | start =>
      refine ⟨by simp [new], fun waiter member => ?_⟩
      rw [List.eq_of_mem_replicate member]
      trivial
  | step action _ stepped ih => exact (step_stepped stepped).sound ih

end Safety

section Progress

variable {index : Nat} {waiter : Waiter}

theorem Turn.stepsLeft {before next : Waiter} {calls : List Call}
    (turn : Turn notifier state index action before next calls) (raised : state.isRaised = true) :
    action.isBy index = true ∧ next.stepsLeft + 1 = before.stepsLeft := by
  cases turn with
  | stay unset => cases unset.symm.trans raised
  | _ => exact ⟨beq_self_eq_true index, rfl⟩

theorem Turn.isBy {other : Nat} {before next : Waiter} {calls : List Call}
    (turn : Turn notifier state index action before next calls) :
    action.isBy other = (index == other) := by
  cases turn <;> rfl

/-- Once everyone was notified, a waiter comes nearer its release by its own steps only, and by
each of them. -/
theorem Stepped.stepsLeft (stepped : Stepped notifier state action after) (sound : state.Sound)
    (finished : state.marker = .finished) (there : state.waiters[index]? = some waiter) :
    after.marker = .finished ∧ ∃ next, after.waiters[index]? = some next ∧
      next.stepsLeft + (action.isBy index).toNat = waiter.stepsLeft := by
  have raised : state.isRaised = true := sound.flag.mpr (by rw [finished]; decide)
  cases stepped with
  | setFlag waiting => cases waiting.symm.trans finished
  | notifyAll flagged => cases flagged.symm.trans finished
  | @turn mover _ before next calls moving turn =>
      refine ⟨finished, ?_⟩
      by_cases own : mover = index
      · subst own
        obtain rfl : before = waiter := Option.some.inj (moving.symm.trans there)
        obtain ⟨isBy, nearer⟩ := turn.stepsLeft raised
        have inside := (List.getElem?_eq_some_iff.mp there).1
        refine ⟨next, List.getElem?_set_self inside, ?_⟩
        rw [isBy]
        exact nearer
      · refine ⟨waiter, (List.getElem?_set_ne own).trans there, ?_⟩
        rw [turn.isBy, beq_false_of_ne own]
        rfl

theorem run_stepsLeft (ran : state.run? notifier actions = some after) (sound : state.Sound)
    (finished : state.marker = .finished) (there : state.waiters[index]? = some waiter) :
    after.marker = .finished ∧ ∃ next, after.waiters[index]? = some next ∧
      next.stepsLeft + actions.countP (Action.isBy index) = waiter.stepsLeft := by
  induction actions generalizing state waiter with
  | nil =>
      cases ran
      exact ⟨finished, waiter, there, rfl⟩
  | cons action rest ih =>
      obtain ⟨middle, stepped, ran⟩ := Option.bind_eq_some_iff.mp ran
      have stepped := step_stepped stepped
      obtain ⟨finished, next, there, first⟩ := stepped.stepsLeft sound finished there
      obtain ⟨finished, last, there, others⟩ := ih ran (stepped.sound sound) finished there
      refine ⟨finished, last, there, ?_⟩
      rw [← first, ← others, List.countP_cons, ← Nat.add_assoc]
      cases action.isBy index <;> rfl

theorem can_step (wakesAll : notifier.WakesAll) (sound : state.Sound)
    (finished : state.marker = .finished) (there : state.waiters[index]? = some waiter)
    (inside : waiter ≠ .released) :
    ∃ action, action.isBy index = true ∧ (state.step? notifier action).isSome = true := by
  have before := sound.waiters waiter (List.mem_of_getElem? there)
  cases waiter with
  | outside => exact ⟨.takeTicket index, beq_self_eq_true index, by simp [step?, there]⟩
  | holding => exact ⟨.look index, beq_self_eq_true index, by simp [step?, there]⟩
  | refused => exact ⟨.park index, beq_self_eq_true index, by simp [step?, there]⟩
  | parked ticket =>
      have awake := wakesAll state.calls ticket before.1 (before.2 finished)
      exact ⟨.wake index, beq_self_eq_true index, by simp [step?, there, awake]⟩
  | released => exact (inside rfl).elim

/-- However many wait and however their steps fall between those of the marker: when the marker
has finished, every ticket that somebody sleeps on is awake, and nobody is released before the
flag is set. From then on each waiter can always go on until it is released, which takes it four
steps of its own at most. -/
theorem signal_is_never_lost (wakesAll : notifier.WakesAll)
    (reachable : Reachable notifier waiters state) :
    (state.marker = .finished → ∀ ticket, .parked ticket ∈ state.waiters →
      notifier.isAwake state.calls ticket = true) ∧
    (.released ∈ state.waiters → state.isRaised = true) ∧
    (state.marker = .finished → ∀ index < state.waiters.length, ∀ actions after,
      state.run? notifier actions = some after → after.waiters[index]? = some .released ∨
        actions.countP (Action.isBy index) < 4 ∧
        ∃ action, action.isBy index = true ∧ (after.step? notifier action).isSome = true) := by
  have sound := reachable.sound
  refine ⟨?_, fun member => sound.waiters .released member, ?_⟩
  · intro finished ticket member
    obtain ⟨given, notified⟩ := sound.waiters (.parked ticket) member
    exact wakesAll state.calls ticket given (notified finished)
  · intro finished index inside actions after ran
    obtain ⟨stillFinished, waiter, there, counted⟩ :=
      run_stepsLeft ran sound finished (List.getElem?_eq_getElem inside)
    have bound := state.waiters[index].stepsLeft_le
    by_cases released : waiter = .released
    · left
      rwa [released] at there
    · right
      have left := Waiter.stepsLeft_pos released
      refine ⟨by omega, ?_⟩
      exact can_step wakesAll (reachable.run ran).sound stillFinished there released

/-- The first waiter looks before the flag is set and parks after everyone was notified. The
second one comes late and passes by at its first look. -/
theorem late_sleeper_is_woken : ∃ state, Notifier.strict.WakesAll ∧
    Reachable .strict 2 state ∧ state.marker = .finished ∧
    state.waiters = [.parked 0, .released] ∧
    Notifier.strict.isAwake state.calls 0 = true ∧ state.isRaised = true ∧
    ∃ after, state.run? .strict [.wake 0, .takeTicket 0] = some after ∧
      ∃ action, action.isBy 0 = true ∧ (after.step? .strict action).isSome = true := by
  let actions : List Action :=
    [.takeTicket 0, .look 0, .setFlag, .notifyAll, .park 0, .takeTicket 1, .look 1]
  have ran : (new 2).run? .strict actions = some _ := rfl
  have reached : Reachable .strict 2 _ := .run .start ran
  obtain ⟨awake, raised, goesOn⟩ := signal_is_never_lost Notifier.strict_wakesAll reached
  refine ⟨_, Notifier.strict_wakesAll, reached, rfl, rfl, awake rfl 0 List.mem_cons_self,
    raised (by decide), _, rfl, ?_⟩
  rcases goesOn rfl 0 Nat.zero_lt_two [.wake 0, .takeTicket 0] _ rfl with gone | ⟨_, goesOn⟩
  · cases gone
  · exact goesOn

end Progress

end State

end Settlement.ReadySignal
