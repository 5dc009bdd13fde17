import Settlement.Proofs.DepositQueue.Attempts
import Settlement.Proofs.Store.Readable

/-!
At most one worker at a time is at a deposit, as long as every attempt is over by the end of
its claim: the claim stands in the deposit's row until then, and no other claim is granted
while it stands. Without failing writes, untimely deaths and lost answers the bank accepts a
deposit once.
-/

namespace Settlement.DepositQueue

section Answers

variable {terms : Terms} {id : Uuid} {clock : Int} {lease : Option Int} {notified : Bool}
  {request : Request} {before after : Store} {reply : request.Reply}

theorem leaseAfter_read {statement : Store.Statement} (read : statement.isRead = true)
    (reply : Request.Reply (.storage statement)) :
    leaseAfter lease (.storage statement) reply = lease := by
  cases statement <;> first | rfl | cases read

theorem answers_read {statement : Store.Statement}
    {reply : Request.Reply (.storage statement)} (read : statement.isRead = true)
    (answered : answers terms clock (.storage statement) before reply after) : after = before := by
  rcases answers_store answered with same | ⟨_, same, ran⟩
  · exact same
  · cases same
    rw [ran, Store.Statement.run_read read]

/-- A worker with a claim either had it before, and then has changed nothing, or has got it just
now, on a row on which no other claim was standing. -/
theorem Permits.granted {limit : Int} (keyed : before.Keyed)
    (permits : Permits id clock lease notified request)
    (answered : answers terms clock request before reply after)
    (granted : leaseAfter lease request reply = some limit) :
    lease = some limit ∧ after = before ∨
      lease = none ∧ ∃ now row, now ≤ clock ∧ before.deposit? id = some row ∧
        row.isClaimable id now = true ∧
          after = ((Store.Statement.claim id now limit).run before).2 := by
  cases request with
  | storage statement =>
      rcases permits.storage with ⟨now, ending, rfl, past, free⟩ | ⟨rfl, _⟩ | ⟨now, rfl, _⟩ | read
      · match reply with
        -- After a failure the claim may stand in the row, but its worker has given up.
        | .error fault | .ok none =>
            rw [free] at granted
            cases granted
        | .ok (some deposit) =>
            cases granted
            rcases answered with ran | ⟨_, ⟨fault, failed⟩, _⟩
            · obtain ⟨reply, ran⟩ := Prod.ext_iff.mp ran
              obtain ⟨row, found, claimable⟩ := Store.claim_granted keyed reply.symm
              exact .inr ⟨free, now, row, past, found, claimable, ran⟩
            · cases failed
      · cases granted
      · cases granted
      · rw [leaseAfter_read read] at granted
        exact .inl ⟨granted, answers_read read answered⟩
  | clock => exact .inl ⟨granted, answered.2⟩
  | _ => exact .inl ⟨granted, answered⟩

theorem Permits.refused {standing : Int} (keyed : before.Keyed)
    (permits : Permits id clock lease notified request)
    (answered : answers terms clock request before reply after) (free : lease = none)
    (held : before.Held id standing) (stands : clock ≤ standing) :
    leaseAfter lease request reply = none := by
  cases granted : leaseAfter lease request reply with
  | none => rfl
  | some limit =>
      rcases permits.granted keyed answered granted with
        ⟨kept, _⟩ | ⟨_, now, row, past, found, claimable, _⟩
      · rw [free] at kept
        cases kept
      · obtain ⟨holder, same, _, claimed⟩ := held
        rw [found] at same
        cases same
        rw [Store.not_claimable claimed (Int.le_trans past stands)] at claimable
        cases claimable

/-- An attempt leaves the standing claims of all others alone. -/
theorem Permits.held {other : Uuid} {limit : Int}
    (permits : Permits id clock lease notified request)
    (answered : answers terms clock request before reply after)
    (apart : id = other → lease = none) (stands : clock ≤ limit)
    (held : before.Held other limit) : after.Held other limit := by
  rcases answers_store answered with rfl | ⟨statement, rfl, rfl⟩
  · exact held
  · apply held.run
    intro row same claimed
    -- A claim leaves a standing claim alone, and to release or move on a deposit one has to
    -- have a claim on it.
    rcases permits.storage with ⟨now, ending, rfl, past, _⟩ | ⟨rfl, holds, _⟩ |
      ⟨now, rfl, holds, _⟩ | read
    · have standing : row.isClaimable id now = false :=
        Store.not_claimable claimed (Int.le_trans past stands)
      simp only [Store.Statement.revise, standing, Bool.false_eq_true, if_false]
    · have foreign : row.id ≠ id.text := by
        intro own
        exact holds (apart (Uuid.text_injective (own.symm.trans same)))
      simp only [Store.Statement.revise, foreign, if_false]
    · have foreign : row.isAt id .inserted = false := by
        rw [Store.DepositRow.isAt, Bool.and_eq_false_iff, decide_eq_false_iff_not]
        exact .inl fun own => holds (apart (Uuid.text_injective (own.symm.trans same)))
      simp only [Store.Statement.revise, foreign, Bool.false_eq_true, if_false]
    · exact Store.revise_read read row

theorem Permits.finished {other : Uuid} (permits : Permits id clock lease notified request)
    (answered : answers terms clock request before reply after)
    (finished : before.Finished other) : after.Finished other := by
  rcases answers_store answered with rfl | ⟨statement, rfl, rfl⟩
  · exact finished
  · apply finished.run
    intro row _ moved
    rcases permits.storage with ⟨now, ending, rfl, _⟩ | ⟨rfl, _⟩ | ⟨now, rfl, _⟩ | read
    · simp only [Store.Statement.revise]
      split <;> rfl
    · simp only [Store.Statement.revise]
      split <;> rfl
    · have elsewhere : row.isAt id .inserted = false := by simp [Store.DepositRow.isAt, moved]
      simp only [Store.Statement.revise, elsewhere, Bool.false_eq_true, if_false]
    · rw [Store.revise_read read]

theorem Permits.advances {limit : Int} (careful : terms.careful)
    (permits : Permits id clock (some limit) true request)
    (answered : answers terms clock request before reply after)
    (held : before.Held id limit) :
    after.Finished id ∨
      leaseAfter (some limit) request reply = some limit ∧
        notifiedAfter true request reply = true := by
  cases request with
  | storage statement =>
      rcases permits.storage with ⟨_, _, _, _, free⟩ | ⟨_, _, silent⟩ | ⟨now, rfl, _⟩ | read
      · cases free
      · cases silent
      · rcases answered with ran | ⟨reads, _⟩
        · obtain ⟨_, rfl⟩ := Prod.ext_iff.mp ran
          exact .inl (Store.finished_advance held (by decide))
        · cases reads careful
      · exact .inr ⟨leaseAfter_read read reply, rfl⟩
  | notifyBank message => cases permits.2.2
  | _ => exact .inr ⟨rfl, rfl⟩

end Answers

def Attempt.Apart (a b : Attempt) : Prop := a.id = b.id → a.lease = none ∨ b.lease = none

theorem Attempt.Apart.symm {a b : Attempt} (apart : a.Apart b) : b.Apart a := by
  intro same
  exact (apart same.symm).symm

/-- The claims of the attempts stand in the rows, at most one for each deposit. -/
structure System.Leased (system : System) : Prop where
  held : ∀ attempt ∈ system.attempts, ∀ limit, attempt.lease = some limit →
    system.store.Held attempt.id limit
  apart : system.attempts.Pairwise Attempt.Apart

theorem System.Leased.chosen {system : System} {attempt : Attempt} {others : List Attempt}
    (leased : system.Leased) (chosen : system.attempts.Perm (attempt :: others)) :
    (∀ other ∈ others, attempt.Apart other) ∧ others.Pairwise Attempt.Apart :=
  List.pairwise_cons.mp ((chosen.pairwise_iff Attempt.Apart.symm).mp leased.apart)

theorem Step.leased {terms : Terms} {before after : System} (step : Step terms before after)
    (orderly : before.Orderly) (timely : before.Timely) (leased : before.Leased) :
    after.Leased := by
  cases step with
  | tick later => exact ⟨leased.held, leased.apart⟩
  | start ttl id =>
      constructor
      · intro attempt member limit lease
        rcases List.mem_cons.mp member with rfl | old
        · cases lease
        · exact leased.held attempt old limit lease
      · apply List.pairwise_cons.mpr
        exact ⟨fun other _ _ => .inl rfl, leased.apart⟩
  | @answer attempt others request next reply store accepts chosen asks answered _ =>
      have asker := chosen_mem chosen
      have permits := ((orderly.attempts attempt asker).asked asks).1
      obtain ⟨apart, rest⟩ := leased.chosen chosen
      constructor
      · -- The attempt stands by the claim it has got or kept, the others by theirs.
        intro other member limit lease
        rcases List.mem_cons.mp member with rfl | member
        · rcases permits.granted orderly.keyed answered lease with
            ⟨lease, same⟩ | ⟨_, now, row, _, found, claimable, ran⟩
          · exact same ▸ leased.held attempt asker limit lease
          · exact ran ▸ Store.held_claim found claimable
        · apply permits.held answered
          · intro same
            exact (apart other member same).resolve_right (by simp [lease])
          · exact timely other (others_mem chosen member) limit lease
          · exact leased.held other (others_mem chosen member) limit lease
      · -- No claim is granted on a deposit on which another's still stands.
        apply List.pairwise_cons.mpr
        refine ⟨fun other member same => ?_, rest⟩
        by_cases free : other.lease = none
        · exact .inr free
        · obtain ⟨standing, lease⟩ := Option.ne_none_iff_exists'.mp free
          have held := leased.held other (others_mem chosen member) standing lease
          have stands := timely other (others_mem chosen member) standing lease
          have unclaimed := (apart other member same).resolve_right free
          exact .inl (permits.refused orderly.keyed answered unclaimed (same ▸ held) stands)
  | die chosen _ | orphan chosen _ _ =>
      constructor
      · intro attempt member
        exact leased.held attempt (others_mem chosen member)
      · exact (leased.chosen chosen).2
  | elsewhere grown _ =>
      constructor
      · intro attempt member limit lease
        exact (leased.held attempt member limit lease).append grown
      · exact leased.apart

theorem Reached.leased {terms : Terms} {start system : System} (timely : terms.timely)
    (reached : Reached terms start system) (orderly : start.Orderly) (leased : start.Leased) :
    system.Leased := by
  induction reached with
  | begin => exact leased
  | step run punctual step ih => exact step.leased (run.orderly orderly) (punctual timely) ih

/-- The bank accepted no deposit twice, and each that it accepted has moved on or is about to. -/
structure System.Settled (system : System) : Prop where
  once : system.accepted.Nodup
  followed : ∀ id ∈ system.accepted, system.store.Finished id ∨
    ∃ attempt ∈ system.attempts, attempt.id = id ∧ attempt.lease ≠ none ∧ attempt.notified = true

theorem System.Settled.unaccepted {system : System} {attempt : Attempt} {others : List Attempt}
    (settled : system.Settled) (leased : system.Leased)
    (chosen : system.attempts.Perm (attempt :: others)) (holds : attempt.lease ≠ none)
    (silent : attempt.notified = false) : attempt.id ∉ system.accepted := by
  intro accepted
  have asker := chosen_mem chosen
  rcases settled.followed attempt.id accepted with finished | ⟨other, member, same, holder, told⟩
  · obtain ⟨limit, lease⟩ := Option.ne_none_iff_exists'.mp holds
    exact (leased.held attempt asker limit lease).not_finished finished
  · rcases List.mem_cons.mp (chosen.mem_iff.mp member) with rfl | member
    · rw [silent] at told
      cases told
    · rcases (leased.chosen chosen).1 other member same.symm with free | free
      · exact holds free
      · exact holder free

theorem Hears.acceptedAfter_cases {accepts : Bool} {request : Request} {reply : request.Reply}
    (hears : Hears True accepts request reply) (accepted : List Uuid) :
    acceptedAfter accepted accepts request = accepted ∨
      ∃ message, request = .notifyBank message ∧
        acceptedAfter accepted accepts request = message.id :: accepted ∧
          ∀ notified, notifiedAfter notified request reply = true := by
  cases request with
  | notifyBank message =>
      cases reply with
      | error failure =>
          obtain rfl := hears trivial
          exact .inl rfl
      | ok _ =>
          obtain rfl := hears
          exact .inr ⟨message, rfl, rfl, fun _ => rfl⟩
  | _ => exact .inl rfl

theorem Step.settled {terms : Terms} {before after : System} (careful : terms.careful)
    (reliable : terms.reliable) (step : Step terms before after) (orderly : before.Orderly)
    (leased : before.Leased) (settled : before.Settled) : after.Settled := by
  cases step with
  | tick later => exact ⟨settled.once, settled.followed⟩
  | start ttl id =>
      refine ⟨settled.once, fun other accepted => (settled.followed other accepted).imp_right ?_⟩
      rintro ⟨attempt, member, rest⟩
      exact ⟨attempt, List.mem_cons_of_mem _ member, rest⟩
  | @answer attempt others request next reply store accepts chosen asks answered hears =>
      have asker := chosen_mem chosen
      have permits := ((orderly.attempts attempt asker).asked asks).1
      rw [eq_true reliable] at hears
      -- An acceptance before this step is still followed up: the only write that its attempt
      -- makes moves the deposit on.
      have followed : ∀ id ∈ before.accepted, store.Finished id ∨
          ∃ other ∈ attempt.told request reply (next reply) :: others, other.id = id ∧
            other.lease ≠ none ∧ other.notified = true := by
        intro id accepted
        rcases settled.followed id accepted with finished | ⟨other, member, same, holds, told⟩
        · exact .inl (permits.finished answered finished)
        · rcases List.mem_cons.mp (chosen.mem_iff.mp member) with rfl | member
          · obtain ⟨limit, lease⟩ := Option.ne_none_iff_exists'.mp holds
            have held := leased.held other asker limit lease
            rw [lease, told] at permits
            rcases permits.advances careful answered held with finished | ⟨kept, still⟩
            · exact .inl (same ▸ finished)
            · refine .inr ⟨_, List.mem_cons_self, same, ?_, ?_⟩
              · simp [Attempt.told, lease, kept]
              · simp [Attempt.told, told, still]
          · exact .inr ⟨other, List.mem_cons_of_mem _ member, same, holds, told⟩
      rcases hears.acceptedAfter_cases before.accepted with same | ⟨message, rfl, added, told⟩
      · constructor
        · rw [same]
          exact settled.once
        · rw [same]
          exact followed
      · obtain ⟨own, holds, silent⟩ := permits
        have fresh := settled.unaccepted leased chosen holds silent
        constructor
        · rw [added, own]
          exact List.nodup_cons.mpr ⟨fresh, settled.once⟩
        · rw [added]
          intro id accepted
          rcases List.mem_cons.mp accepted with rfl | accepted
          · exact .inr ⟨_, List.mem_cons_self, own.symm, holds, told attempt.notified⟩
          · exact followed id accepted
  | @die attempt others chosen spared =>
      refine ⟨settled.once, fun id accepted => (settled.followed id accepted).imp_right ?_⟩
      rintro ⟨other, member, same, holds, told⟩
      rcases List.mem_cons.mp (chosen.mem_iff.mp member) with rfl | member
      · rcases spared careful with free | silent
        · exact absurd free holds
        · rw [silent] at told
          cases told
      · exact ⟨other, member, same, holds, told⟩
  | orphan _ _ lost => exact absurd reliable lost
  | elsewhere grown _ =>
      refine ⟨settled.once, fun id accepted => (settled.followed id accepted).imp_left ?_⟩
      exact fun finished => finished.append grown

theorem Reached.settled {terms : Terms} {start system : System} (timely : terms.timely)
    (careful : terms.careful) (reliable : terms.reliable) (reached : Reached terms start system)
    (orderly : start.Orderly) (leased : start.Leased) (settled : start.Settled) :
    system.Settled := by
  induction reached with
  | begin => exact settled
  | step run punctual step ih =>
      have apart := run.leased timely orderly leased
      exact step.settled careful reliable (run.orderly orderly) apart ih

structure System.Idle (system : System) : Prop where
  keyed : system.store.Keyed
  attempts : system.attempts = []
  accepted : system.accepted = []

theorem System.Idle.orderly {system : System} (idle : system.Idle) : system.Orderly := by
  constructor
  · exact idle.keyed
  · intro attempt member
    rw [idle.attempts] at member
    cases member

theorem System.Idle.leased {system : System} (idle : system.Idle) : system.Leased := by
  constructor
  · intro attempt member
    rw [idle.attempts] at member
    cases member
  · rw [idle.attempts]
    exact .nil

theorem System.Idle.settled {system : System} (idle : system.Idle) : system.Settled := by
  constructor
  · rw [idle.accepted]
    exact .nil
  · intro id accepted
    rw [idle.accepted] at accepted
    cases accepted

theorem Attempt.Orderly.calls {attempt : Attempt} {clock : Int} {id : Uuid}
    (orderly : attempt.Orderly clock) (calls : attempt.Calls id) :
    attempt.id = id ∧ attempt.lease ≠ none ∧ attempt.notified = false := by
  obtain ⟨message, next, asks, rfl⟩ := calls
  obtain ⟨own, rest⟩ := (orderly.asked asks).1
  exact ⟨own.symm, rest⟩

/-- At any time at most one attempt at a deposit has a claim, an attempt that has come to its end
has none, no two requests for one deposit are with the bank at once, and on careful terms without
lost answers the bank accepts at most one request for each deposit. -/
theorem one_attempt_at_a_time {terms : Terms} {start system : System} (timely : terms.timely)
    (idle : start.Idle) (reached : Reached terms start system) :
    system.attempts.Pairwise Attempt.Apart ∧
      (∀ attempt ∈ system.attempts, ∀ result, attempt.rest = .done result →
        attempt.lease = none) ∧
      system.attempts.Pairwise (fun a b => ∀ id, ¬ (a.Calls id ∧ b.Calls id)) ∧
      (terms.careful → terms.reliable → system.accepted.Nodup) := by
  have orderly := reached.orderly idle.orderly
  have leased := reached.leased timely idle.orderly idle.leased
  refine ⟨leased.apart, ?_, ?_, ?_⟩
  · intro attempt member result ended
    have kept := orderly.attempts attempt member
    rw [Attempt.Orderly, ended] at kept
    exact kept
  · apply leased.apart.imp_of_mem
    rintro a b first second apart id ⟨left, right⟩
    obtain ⟨mine, holds, _⟩ := (orderly.attempts a first).calls left
    obtain ⟨yours, holder, _⟩ := (orderly.attempts b second).calls right
    rcases apart (mine.trans yours.symm) with free | free
    · exact holds free
    · exact holder free
  · intro careful reliable
    exact (reached.settled timely careful reliable idle.orderly idle.leased idle.settled).once

/-! One deposit that waits for the bank, and the account of its sender. -/

def oneDeposit : Store.Deposit where
  id := zeroStamp.id
  fromAddress := "a"
  toAddress := "m"
  denom := "d"
  amount := "5"
  height := 1
  txHash := "T"
  status := .inserted
  created := zeroStamp.time
  updated := zeroStamp.time

def oneAccount : Store.Registration where
  id := zeroStamp.id
  address := "a"
  bankAccount := zeroStamp.id
  active := true
  created := zeroStamp.time

def oneWaits : System where
  store :=
    { Store.empty with
      deposits := [oneDeposit.row]
      registrations := [⟨zeroStamp.id.text, "a", zeroStamp.id.text, true, zeroStamp.time.stored⟩] }
  clock := 0
  attempts := []
  accepted := []

theorem oneWaits_idle : oneWaits.Idle := ⟨by simp [Store.Keyed, oneWaits], rfl, rfl⟩

theorem oneDeposit_claimed {store : Store} {now limit : Int} {standing : Option Store.Cell}
    (here : store.deposits = [{ oneDeposit.row with claimedUntil := standing }])
    (free : (standing.all fun cell => cell.isBelow now) = true) :
    (Store.Statement.claim zeroStamp.id now limit).run store = (.ok (some oneDeposit),
      { store with
        deposits := [{ oneDeposit.row with claimedUntil := some (.number limit) }] }) := by
  have claimable : Store.DepositRow.isClaimable zeroStamp.id now
      { oneDeposit.row with claimedUntil := standing } = true := by
    simp [Store.DepositRow.isClaimable, Store.DepositRow.isPending, oneDeposit,
      Store.Deposit.row, free]
  have read : Store.DepositRow.read { oneDeposit.row with claimedUntil := standing } =
      .ok oneDeposit := Store.Deposit.read_row oneDeposit
  simp [Store.Statement.run, Store.claim, here, claimable, Store.readOptional, read, Except.map]

theorem oneDeposit_released {store : Store} {standing : Option Store.Cell}
    (here : store.deposits = [{ oneDeposit.row with claimedUntil := standing }]) :
    (Store.Statement.release zeroStamp.id).run store =
      (.ok (), { store with deposits := [oneDeposit.row] }) := by
  simp [Store.Statement.run, Store.release, here, oneDeposit, Store.Deposit.row]

theorem oneDeposit_held {store : Store} {limit : Int}
    (here : store.deposits = [{ oneDeposit.row with claimedUntil := some (.number limit) }]) :
    store.Held zeroStamp.id limit := by
  have found : store.deposit? zeroStamp.id =
      some { oneDeposit.row with claimedUntil := some (.number limit) } := by
    simp [Store.deposit?, here, oneDeposit, Store.Deposit.row]
  exact ⟨_, found, rfl, rfl⟩

theorem oneAccount_found {store : Store}
    (here : store.registrations = oneWaits.store.registrations) :
    (Store.Statement.activeRegistration "a").run store = (.ok (some oneAccount), store) := by
  have read : Store.RegistrationRow.read ⟨zeroStamp.id.text, "a", zeroStamp.id.text, true,
      zeroStamp.time.stored⟩ = .ok oneAccount := by
    simp only [Store.RegistrationRow.read, Store.readId_text, Store.readTime_stored]
    rfl
  simp [Store.Statement.run, here, oneWaits, Store.latestActiveRegistration, Store.newest,
    Store.readOptional, read, Except.map]

theorem Reached.call {terms : Terms} {start system : System} {limit : Int}
    {standing : Option Store.Cell} (reached : Reached terms start system)
    (punctual : terms.timely → system.Timely)
    (here : system.store.deposits = [{ oneDeposit.row with claimedUntil := standing }])
    (known : system.store.registrations = oneWaits.store.registrations)
    (free : (standing.all fun cell => cell.isBelow system.clock) = true)
    (ends : claimEnd? system.clock (.ofSeconds 60) = some limit) (lasts : system.clock ≤ limit) :
    ∃ next, Reached terms start { system with
        store := { system.store with
          deposits := [{ oneDeposit.row with claimedUntil := some (.number limit) }] }
        attempts := ⟨zeroStamp.id, .ask (.notifyBank ⟨zeroStamp.id, zeroStamp.id, "5"⟩) next,
          some limit, false⟩ :: system.attempts } ∧
      ∀ failure, next (.error failure) =
        storage (.release zeroStamp.id) >>= fun _ => .fail (.bank failure) := by
  have within : ∀ attempt : Attempt, (∀ ending, attempt.lease = some ending → ending = limit) →
      terms.timely → ∀ other ∈ attempt :: system.attempts, ∀ ending,
        other.lease = some ending → system.clock ≤ ending := by
    intro attempt own timely other member ending lease
    rcases List.mem_cons.mp member with rfl | old
    · exact own ending lease ▸ lasts
    · exact punctual timely other old ending lease
  have started := reached.step punctual (.start (.ofSeconds 60) zeroStamp.id)
  have timed := started.step (within _ nofun) (.answer (.refl _) (process_asks _ _)
    ⟨rfl, rfl⟩ (show Hears _ false _ _ from trivial))
  dsimp only at timed
  rw [ends] at timed
  have claimed := timed.step (within _ nofun)
    (.answer (.refl _) rfl (Or.inl (oneDeposit_claimed here free).symm)
      (show Hears _ false _ _ from trivial))
  have found := claimed.step (within _ fun _ lease => (Option.some.inj lease).symm)
    (.answer (.refl _) rfl (Or.inl (oneAccount_found (by exact known)).symm)
      (show Hears _ false _ _ from trivial))
  exact ⟨_, found, fun _ => rfl⟩

theorem one_acceptance : ∃ system : System, system.accepted = [zeroStamp.id] ∧
    system.attempts.map Attempt.lease = [some 60000] ∧
    system.attempts.Pairwise Attempt.Apart ∧ system.accepted.Nodup := by
  have ends : claimEnd? 0 (.ofSeconds 60) = some 60000 := by decide +kernel
  have begun : Reached ⟨True, True, True⟩ oneWaits oneWaits := .begin
  obtain ⟨next, called, _⟩ := begun.call (fun _ => by simp [System.Timely, oneWaits]) (by rfl) rfl
    rfl ends (by decide)
  have accepted := called.step (fun _ => by simp [System.Timely, oneWaits])
    (.answer (.refl _) rfl (show answers _ _ (.notifyBank _) _ (.ok ()) _ from rfl)
      (show Hears _ true _ _ from rfl))
  obtain ⟨apart, _, _, once⟩ := one_attempt_at_a_time trivial oneWaits_idle accepted
  exact ⟨_, rfl, rfl, apart, once trivial trivial⟩

/-- The bank accepts the first request, but its answer does not arrive. The worker releases the
deposit, and the next request for it is accepted as well. -/
theorem lost_answer_is_followed_by_another_request : ∃ system : System,
    Reached ⟨True, True, False⟩ oneWaits system ∧
      system.accepted = [zeroStamp.id, zeroStamp.id] ∧ ¬ system.accepted.Nodup := by
  have ends : claimEnd? 0 (.ofSeconds 60) = some 60000 := by decide +kernel
  have begun : Reached ⟨True, True, False⟩ oneWaits oneWaits := .begin
  obtain ⟨first, called, fails⟩ := begun.call (fun _ => by simp [System.Timely, oneWaits])
    (by rfl) rfl rfl ends (by decide)
  have unheard := called.step (fun _ => by simp [System.Timely, oneWaits])
    (.answer (.refl _) rfl (show answers _ _ (.notifyBank _) _ (.error .transport) _ from rfl)
      (show Hears False true _ _ from False.elim))
  dsimp only at unheard
  rw [fails] at unheard
  have released := unheard.step
    (fun _ => by simp [System.Timely, oneWaits, Attempt.told, leaseAfter])
    (.answer (.refl _) rfl (Or.inl (oneDeposit_released (by rfl)).symm)
      (show Hears _ false _ _ from trivial))
  obtain ⟨second, recalled, _⟩ := released.call
    (fun _ => by simp [System.Timely, oneWaits, Attempt.told, leaseAfter]) (by rfl) rfl
    rfl ends (show (0 : Int) ≤ 60000 by decide)
  have again := recalled.step
    (fun _ => by simp [System.Timely, oneWaits, Attempt.told, leaseAfter])
    (.answer (.refl _) rfl (show answers _ _ (.notifyBank _) _ (.ok ()) _ from rfl)
      (show Hears _ true _ _ from rfl))
  exact ⟨_, again, rfl, by simp [acceptedAfter, oneWaits]⟩

end Settlement.DepositQueue
