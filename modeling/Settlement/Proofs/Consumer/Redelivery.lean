import Settlement.Proofs.Consumer.Delivery
import Settlement.Proofs.DepositQueue.Leases
import Settlement.Proofs.DepositQueue.Turns

/-!
A batch that comes again. Whatever other batches were handled since, and whatever the queue did
to the deposits, it finds nothing to do: it writes no row, and it looks up a transaction only
for an event that has no row because the chain does not confirm it.
-/

namespace Settlement.Consumer

open Activity
open DepositQueue (oneDeposit oneDeposit_claimed)
open Store (Lasts Identified)

def Repeats (settings : Settings) (batch : Chain.Batch) (request : Request)
    (before after : Store) : Prop :=
  after = before ∧ (∀ message, request ≠ .notifyBank message) ∧
    ∀ txHash, request = .transaction txHash → ∃ observed ∈ settings.observed batch,
      observed.txHash = txHash ∧ Missing settings observed before

section Again

variable {settings : Settings} {history : History} {batch : Chain.Batch}
  {answers : Answering Store} {disturbed : Prop} {turn : Store → Store → Prop}

def idle (settings : Settings) (batch : Chain.Batch) (answers : Answering Store)
    (turn : Store → Store → Prop) : Pact (World.shared Unit answers turn) where
  own := Repeats settings batch
  others := Relation.ReflTransGen turn
  refl _ := .refl
  trans := .trans
  own_others := by
    rintro request before after ⟨rfl, _⟩
    exact .refl
  elsewhere := .single

theorem Repeats.plain {request : Request} {before after : Store} (same : after = before)
    (quiet : ∀ message, request ≠ .notifyBank message)
    (other : ∀ txHash, request ≠ .transaction txHash) :
    Repeats settings batch request before after :=
  ⟨same, quiet, fun txHash asked => (other txHash asked).elim⟩

variable (turns : ∀ before after, turn before after → DepositQueue.Turn before after)

include turns

theorem lasts_turns {before after : Store} (identified : Identified before.tracked)
    (passed : Relation.ReflTransGen turn before after) : Lasts before after := by
  induction passed with
  | refl => exact .refl before
  | tail _ step ih => exact ih.trans ((turns _ _ step).lasts (identified.lasts ih))

theorem missing_turns {before after : Store} {observed : Observed}
    (missing : Missing settings observed before)
    (passed : Relation.ReflTransGen turn before after) : Missing settings observed after := by
  induction passed with
  | refl => exact missing
  | tail _ step ih => exact (turns _ _ step).missing ih

theorem repeats_effect {start before after : Store} {observed : Observed} {request : Request}
    (identified : Identified start.tracked) (member : observed ∈ settings.observed batch)
    (handled : Handled settings history observed start)
    (effect : Effect settings history answers (idle settings batch answers turn) observed start
      request before after) : Repeats settings batch request before after := by
  have settled : ∀ {store}, ¬ Since (idle settings batch answers turn) start
      (Unsettled observed) store := by
    rintro store ⟨earlier, since, _, unsettled⟩
    exact (handled.lasts (lasts_turns turns identified since)).not_unsettled unsettled
  have unconfirmed : ∀ {store}, Since (idle settings batch answers turn) start
      (Missing settings observed) store → history.confirms observed.txHash = false := by
    rintro store ⟨earlier, since, _, missing⟩
    exact (handled.lasts (lasts_turns turns identified since)).unconfirmed missing
  cases effect with
  | stamp => exact .plain rfl (by simp) (by simp)
  | read => exact .plain rfl (by simp) (by simp)
  | look waiting =>
      obtain ⟨earlier, since, passed, unsettled | missing⟩ := waiting
      · exact (settled ⟨earlier, since, passed, unsettled⟩).elim
      · refine ⟨rfl, by simp, ?_⟩
        rintro _ ⟨⟩
        exact ⟨observed, member, rfl, missing_turns turns missing passed⟩
  | settle _ _ live _ => exact (settled live).elim
  | addMigration kind confirmed missing _ =>
      subst kind
      cases (unconfirmed missing).symm.trans confirmed
  | addDeposit kind _ confirmed missing _ =>
      subst kind
      cases (unconfirmed missing).symm.trans confirmed

omit turns in
theorem repeats_entered {start before after : Store} {request : Request}
    (recorded : Recorded settings history batch start) (lasts : Lasts start before)
    (entered : Entered settings history batch start request before after) :
    Repeats settings batch request before after := by
  cases entered with
  | times => exact .plain rfl (by simp) (by simp)
  | header => exact .plain rfl (by simp) (by simp)
  | resolve => exact .plain rfl (by simp) (by simp)
  | @append entries now _ _ made ran =>
      refine .plain ?_ (by simp) (by simp)
      obtain ⟨others, same, taken⟩ := recorded.lasts lasts
      rw [lasts.registrations, made] at same
      cases same
      rcases ran with rfl | ⟨_, rfl⟩
      · rfl
      · simp only [Store.Statement.run, Store.appendEntries_taken now taken]

theorem Delivered.repeats {start : Store} (identified : Identified start.tracked)
    (delivered : Delivered settings history batch start) (request : Request)
    (before after : Store)
    (conducted : Conducted settings history batch answers (idle settings batch answers turn)
      start request before after) : Repeats settings batch request before after := by
  obtain ⟨here, since, passed, entered | ⟨observed, due, effect⟩⟩ := conducted
  · have kept := lasts_turns turns identified since
    exact repeats_entered (delivered.movements.lasts kept)
      (lasts_turns turns (identified.lasts kept) passed) entered
  · have kept := lasts_turns turns identified since
    exact repeats_effect turns (identified.lasts kept) due.mem
      ((delivered.events observed due.mem).lasts kept) effect

def lasting (answers : Answering Store) :
    Pact (World.shared Chain.Batch answers DepositQueue.Turn) where
  own _ before after := Identified before.tracked → Lasts before after
  others before after := Identified before.tracked → Lasts before after
  refl state _ := .refl state
  trans first second identified :=
    (first identified).trans (second (identified.lasts (first identified)))
  own_others := id
  elsewhere turn identified := turn.lasts identified

omit turns in
theorem delivered_of_reached {start : Store} {scene : Scene Store Chain.Batch Failure Unit}
    (identified : Identified start.tracked)
    (reached : (World.shared Chain.Batch history.answers DepositQueue.Turn).Reaches
      (fun party => party.rest = handleBatch settings party.memory) ⟨start, []⟩ scene)
    (handled : ⟨batch, .done (.ok ())⟩ ∈ scene.parties) :
    Identified scene.state.tracked ∧ Delivered settings history batch scene.state := by
  have manners : Manners history history.answers True :=
    ⟨id, fun _ => .inl trivial, fun _ => trivial, fun _ => trivial⟩
  have handles : ∀ party : Party Chain.Batch Failure Unit,
      party.rest = handleBatch settings party.memory → ∀ state,
      (lasting history.answers).others start state →
      party.rest.Abides (lasting history.answers) (fun told result store =>
        result = .ok () → Delivered settings history told store) party.memory state := by
    intro party begins state since
    rw [begins]
    have known := identified.lasts (since identified)
    have lasts : ∀ {before after}, Identified before.tracked →
        (lasting history.answers).others before after → Lasts before after :=
      fun known passed => passed known
    have leaves : ∀ request before after, (lasting history.answers).others state before →
        Conducted settings history party.memory history.answers (lasting history.answers) state
          request before after → Identified before.tracked → Lasts before after :=
      fun _ _ _ _ conducted => conducted.lasts
    have abides := (abides_handleBatch manners lasts known leaves party.memory).remembers
    refine abides.mono ?_
    rintro told result store ⟨rfl, ended⟩ rfl
    exact ended
  obtain ⟨since, abide⟩ := reached.abides handles (by simp)
  constructor
  · exact identified.lasts (since identified)
  · exact abide _ handled scene.state (fun _ => .refl _) rfl

/-- A batch that was handled asks for nothing that changes a row, and adds no movements. -/
theorem redelivery_touches_nothing {start : Store} {scene : Scene Store Chain.Batch Failure Unit}
    (identified : Identified start.tracked)
    (reached : (World.shared Chain.Batch history.answers DepositQueue.Turn).Reaches
      (fun party => party.rest = handleBatch settings party.memory) ⟨start, []⟩ scene)
    (handled : ⟨batch, .done (.ok ())⟩ ∈ scene.parties)
    (manners : Manners history answers disturbed) :
    (∀ state rest, (World.shared Unit answers turn).Reaches (fun _ => False)
        ⟨scene.state, [⟨(), handleBatch settings batch⟩]⟩ ⟨state, [⟨(), rest⟩]⟩ →
      Relation.ReflTransGen turn scene.state state ∧
      (∀ failure, rest = .done (.error failure) → disturbed) ∧
      ∀ request next reply after, rest = .ask request next →
        answers request state reply after → Repeats settings batch request state after) ∧
    ∀ state count, (World.shared Unit answers turn).Reaches (fun _ => False)
        ⟨scene.state, [⟨(), recordBlock settings batch.height batch⟩]⟩
        ⟨state, [⟨(), .done (.ok count)⟩]⟩ →
      Relation.ReflTransGen turn scene.state state ∧ count = 0 := by
  obtain ⟨known, delivered⟩ := delivered_of_reached identified reached handled
  constructor
  · intro state rest again
    have handles := abides_handleBatch manners (lasts_turns turns) known
      (fun request before after _ => delivered.repeats turns known request before after) ()
    obtain ⟨passed, abide⟩ := again.abides (fun _ => False.elim) (by simpa using handles)
    have left := abide ⟨(), rest⟩ (by simp)
    refine ⟨passed, ?_, ?_⟩
    · rintro failure rfl
      rcases left state .refl with cause | ⟨earlier, since, _, refused⟩
      · exact cause
      · exact ((delivered.lasts (lasts_turns turns known since)).not_refused refused).elim
    · rintro request next reply after rfl answered
      exact (left state .refl reply after answered).1
  · intro state count again
    have enters : ∀ request before after,
        (idle settings batch answers turn).others scene.state before →
        Entered settings history batch scene.state request before after →
        Repeats settings batch request before after := fun request before after passed entered =>
      repeats_entered delivered.movements (lasts_turns turns known passed) entered
    have records := abides_recordBlock manners (lasts_turns turns) known enters ()
    obtain ⟨passed, abide⟩ := again.abides (fun _ => False.elim) (by simpa using records)
    have ended := abide ⟨(), .done (.ok count)⟩ (by simp) state .refl
    exact ⟨passed, ended.2 delivered.movements⟩

end Again

theorem queue_claims : DepositQueue.Turn { Store.empty with deposits := [oneDeposit.row] }
    { Store.empty with
      deposits := [{ oneDeposit.row with claimedUntil := some (.number 60000) }] } := by
  have ends : DepositQueue.claimEnd? 0 (.ofSeconds 60) = some 60000 := by decide +kernel
  have claims : (DepositQueue.process (.ofSeconds 60) zeroStamp.id).MayAsk
      (.storage (.claim zeroStamp.id 0 60000)) := by
    rw [DepositQueue.process_asks]
    refine .inr ⟨(0 : Int), ?_⟩
    dsimp only
    rw [ends]
    exact .inl rfl
  refine ⟨_, .inr ⟨_, _, claims⟩, .inr ⟨trivial, ?_⟩⟩
  rw [oneDeposit_claimed (by rfl) rfl]

/-- The deposit is claimed by the queue when its transfer comes again. -/
theorem claimed_transfer_comes_again : ∃ scene : Scene Store Chain.Batch Failure Unit,
    (World.shared Chain.Batch approving.answers DepositQueue.Turn).Reaches
      (fun party => party.rest = handleBatch fromGenesis party.memory) ⟨Store.empty, []⟩ scene ∧
    scene.state.deposits.map (fun row => (row.txHash, row.status, row.claimedUntil)) =
      [("T", "INSERTED", some (.number 60000))] ∧
    ∀ state rest, (World.shared Unit (approving.steady 0) fun _ _ => False).Reaches
        (fun _ => False) ⟨scene.state, [⟨(), handleBatch fromGenesis bankBound⟩]⟩
        ⟨state, [⟨(), rest⟩]⟩ →
      state = scene.state ∧ ∀ failure, rest ≠ .done (.error failure) := by
  let world := World.shared Chain.Batch approving.answers DepositQueue.Turn
  have begun : world.Reaches (fun party => party.rest = handleBatch fromGenesis party.memory)
      ⟨Store.empty, []⟩ ⟨Store.empty, [⟨bankBound, handleBatch fromGenesis bankBound⟩]⟩ :=
    .single (.join rfl)
  have untracked := begun.only_answer
    (show world.answers _ (.storage (.tracked "T")) _ (.ok none) _ from .inl ⟨trivial, rfl⟩)
  have absent := untracked.only_answer
    (show world.answers _ (.storage (.deposit "T")) _ (.ok none) _ from .inl ⟨trivial, rfl⟩)
  have confirmed := absent.only_answer (show world.answers _ (.transaction "T") _
    (.ok (some ⟨"T", 1, 0, ""⟩)) _ from ⟨rfl, .inl rfl⟩)
  have stamped := confirmed.only_answer (show world.answers _ .stamp _ zeroStamp _ from rfl)
  have inserted := stamped.only_answer
    (show world.answers _ (.storage (.addDeposit oneDeposit)) _ (.ok true)
      { Store.empty with deposits := [oneDeposit.row] } from .inl ⟨nofun, rfl⟩)
  have handled := inserted.only_answer
    (show world.answers _ (.storage (.registration "a")) _ (.ok none) _ from .inl ⟨trivial, rfl⟩)
  have claimed := handled.elsewhere queue_claims
  have identified : Identified Store.empty.tracked := ⟨.nil, nofun⟩
  obtain ⟨again, _⟩ := redelivery_touches_nothing (fun _ _ => False.elim) identified claimed
    (.head _) (manners_steady approving 0)
  refine ⟨_, claimed, rfl, fun state rest reached => ?_⟩
  obtain ⟨passed, fails, _⟩ := again state rest reached
  constructor
  · induction passed with
    | refl => rfl
    | tail _ never => exact never.elim
  · exact fun failure failed => fails failure failed

end Settlement.Consumer
