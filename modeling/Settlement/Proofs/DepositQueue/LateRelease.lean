import Settlement.Proofs.DepositQueue.Leases

/-!
What a failing attempt takes away when it releases its deposit. The release does not ask
whose claim stands in the row, so an attempt that has outlived its own claim drops the claim
of the worker that took the deposit over.
-/

namespace Settlement.DepositQueue

/-- Only an attempt that was given a claim and that the bank did not hear out releases, and it
releases its own deposit. -/
theorem Attempt.Orderly.releases {attempt : Attempt} {clock : Int} {id : Uuid}
    {next : Request.Reply (.storage (.release id)) → Activity Failure Bool}
    (orderly : attempt.Orderly clock) (asks : attempt.rest = .ask (.storage (.release id)) next) :
    id = attempt.id ∧ attempt.lease ≠ none ∧ attempt.notified = false :=
  (orderly.asked asks).1

/-- The claim that stands on a deposit is lost to any release of that deposit and to no other. -/
theorem held_release {store : Store} {id released : Uuid} {limit : Int}
    (held : store.Held id limit) :
    Store.Held ((Store.Statement.release released).run store).2 id limit ↔ id ≠ released := by
  obtain ⟨row, found, waiting, claimed⟩ := held
  constructor
  · rintro ⟨after, same, _, kept⟩ rfl
    rw [Store.deposit?_release found] at same
    cases same
    cases kept
  · intro foreign
    have elsewhere : row.id ≠ released.text := by
      intro same
      exact foreign (Uuid.text_injective ((Store.deposit?_id found).symm.trans same))
    have kept := Store.deposit?_run (.release released) found
    simp only [Store.Statement.revise, elsewhere, if_false] at kept
    exact ⟨row, kept, waiting, claimed⟩

theorem claim_released {store : Store} {id : Uuid} {limit : Int} (held : store.Held id limit)
    (now ending : Int) :
    ((Store.Statement.claim id now ending).run ((Store.Statement.release id).run store).2).1 ≠
        .ok none ∧
      Store.Held ((Store.Statement.claim id now ending).run
        ((Store.Statement.release id).run store).2).2 id ending := by
  obtain ⟨row, found, waiting, _⟩ := held
  have released := Store.deposit?_release found
  have claimable : Store.DepositRow.isClaimable id now
      { row with claimedUntil := none } = true := by
    simp [Store.DepositRow.isClaimable, Store.DepositRow.isPending, waiting,
      Store.deposit?_id found]
  exact ⟨Store.claim_not_refused released claimable, Store.held_claim released claimable⟩

/-- A failing attempt that is about to release drops whatever claim stands on its deposit, be it
its own or another's, and no claim on another deposit. Before the release everybody is refused
up to the end of that claim, after it nobody is. If every attempt is over by the end of its
claim, then no other is at the same deposit, and the claim that is dropped is the worker's own. -/
theorem release_drops_the_standing_claim {terms : Terms} {start system : System}
    {attempt : Attempt} {others : List Attempt} {id : Uuid}
    {next : Request.Reply (.storage (.release id)) → Activity Failure Bool} (idle : start.Idle)
    (reached : Reached terms start system)
    (chosen : system.attempts.Perm (attempt :: others))
    (asks : attempt.rest = .ask (.storage (.release id)) next) :
    let after := ((Store.Statement.release id).run system.store).2
    (∀ deposit limit, system.store.Held deposit limit →
      (after.Held deposit limit ↔ deposit ≠ attempt.id)) ∧
    (∀ limit, system.store.Held attempt.id limit → ∀ now ending,
      (now ≤ limit →
        ((Store.Statement.claim attempt.id now ending).run system.store).1 = .ok none) ∧
      ((Store.Statement.claim attempt.id now ending).run after).1 ≠ .ok none ∧
      Store.Held ((Store.Statement.claim attempt.id now ending).run after).2 attempt.id ending) ∧
    (terms.timely →
      (∀ other ∈ others, other.lease ≠ none → other.id ≠ attempt.id) ∧
      ∃ limit, attempt.lease = some limit ∧ system.store.Held attempt.id limit) := by
  intro after
  have orderly := reached.orderly idle.orderly
  have asker := chosen_mem chosen
  obtain ⟨rfl, holds, _⟩ := (orderly.attempts attempt asker).releases asks
  refine ⟨fun deposit limit held => held_release held, ?_, ?_⟩
  · intro limit held now ending
    constructor
    · exact Store.claim_refused orderly.keyed held
    · exact claim_released held now ending
  · intro timely
    have leased := reached.leased timely idle.orderly idle.leased
    constructor
    · intro other member holder same
      rcases (leased.chosen chosen).1 other member same.symm with free | free
      · exact holds free
      · exact holder free
    · obtain ⟨limit, lease⟩ := Option.ne_none_iff_exists'.mp holds
      exact ⟨limit, lease, leased.held attempt asker limit lease⟩

/-- The first worker's claim ends at a minute, the second takes the deposit over, and then the
first hears of the bank's failure. -/
theorem takeover_lost : ∃ system : System, Reached ⟨False, True, True⟩ oneWaits system ∧
    system.clock = 60001 ∧ system.attempts.map Attempt.lease = [some 60000, some 120001] ∧
    system.store.Held zeroStamp.id 120001 ∧
    ((Store.Statement.claim zeroStamp.id 60001 120002).run system.store).1 = .ok none ∧
    ((Store.Statement.claim zeroStamp.id 60001 120002).run
      ((Store.Statement.release zeroStamp.id).run system.store).2).1 ≠ .ok none := by
  have early : claimEnd? 0 (.ofSeconds 60) = some 60000 := by decide +kernel
  have later : claimEnd? 60001 (.ofSeconds 60) = some 120001 := by decide +kernel
  have begun : Reached ⟨False, True, True⟩ oneWaits oneWaits := .begin
  obtain ⟨first, called, fails⟩ := begun.call False.elim (by rfl) rfl rfl early (by decide)
  -- The first request stays with the bank for more than a minute.
  have passed := called.step False.elim (.tick (show (0 : Int) ≤ 60001 by decide))
  obtain ⟨second, taken, _⟩ := passed.call False.elim (by rfl) rfl (by rfl) later
    (show (60001 : Int) ≤ 120001 by decide)
  -- The second worker has the deposit when the first one hears of the failure.
  have failed := taken.step False.elim (.answer (.swap _ _ _) rfl
    (show answers _ _ (.notifyBank _) _ (.error .transport) _ from rfl)
    (show Hears _ false _ _ from fun _ => rfl))
  dsimp only at failed
  rw [fails] at failed
  obtain ⟨_, dropped, _⟩ := release_drops_the_standing_claim oneWaits_idle failed (.refl _) rfl
  obtain ⟨refused, granted, _⟩ := dropped 120001 (oneDeposit_held (by rfl)) 60001 120002
  exact ⟨_, failed, rfl, rfl, oneDeposit_held (by rfl), refused (by decide), granted⟩

end Settlement.DepositQueue
