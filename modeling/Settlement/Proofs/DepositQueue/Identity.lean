import Settlement.Proofs.Consumer.Delivery
import Settlement.Proofs.Consumer.Finality
import Settlement.Proofs.DepositQueue.Leases

/-!
Any number of consumers and queue workers side by side. A deposit is never deleted, and the
columns that say what it is never change. Every party keeps what it has asked and been told,
and a request to the bank is written down together with that: it carries the id and the amount
of the sender's claimed row, and the account that the directory gave in the same attempt.
-/

namespace Settlement.DepositIdentity

open Activity
open Store (DepositRow Deposit Registration)
open DepositQueue (claimEnd? process process_asks oneWaits oneDeposit oneDeposit_claimed oneAccount
  oneAccount_found)

/-- A request to the bank, with what its sender had heard before. -/
structure Sent where
  message : Bank.Request
  heard : List Exchange

structure State where
  store : Store
  delivered : List Chain.Batch
  sent : List Sent

def batchesOf : (request : Request) → request.Reply → List Chain.Batch
  | .openStream .., items => items.filterMap Except.toOption
  | _, _ => []

def callsOf (heard : List Exchange) : Request → List Sent
  | .notifyBank message => [⟨message, heard⟩]
  | _ => []

/-- All replies from outside are any, and a storage call that fails may have taken effect. Others
do what they like to all tables but the deposits. -/
def world : World State (List Exchange) where
  answers heard request before reply after :=
    Finality.told request before.store reply after.store ∧
      after.delivered = before.delivered ++ batchesOf request reply ∧
      after.sent = before.sent ++ callsOf heard request
  learn heard request reply := heard ++ [⟨request, reply⟩]
  elsewhere before after := after.store.deposits = before.store.deposits ∧
    after.delivered = before.delivered ∧ after.sent = before.sent

def unheeded {ε α : Type} (activity : Activity ε α) : Activity Unit Unit :=
  discard (activity.mapFailure fun _ => ())

/-- Consumers with the given settings, for any number of rounds, and workers at any deposits. -/
inductive Joins (configured : Consumer.Settings → Prop) :
    Party (List Exchange) Unit Unit → Prop where
  | consumer {settings : Consumer.Settings} (known : configured settings) (rounds : Nat) :
      Joins configured ⟨[], unheeded (Consumer.supervise settings rounds)⟩
  | loader : Joins configured ⟨[], unheeded DepositQueue.load⟩
  | worker (ttl : Span) (id : Uuid) : Joins configured ⟨[], unheeded (DepositQueue.process ttl id)⟩

def atRest (store : Store) : Scene State (List Exchange) Unit Unit := ⟨⟨store, [], []⟩, []⟩

/-- The same deposit, and if its status has changed then from waiting to done. -/
structure Moves (before after : DepositRow) : Prop where
  id : after.id = before.id
  txHash : after.txHash = before.txHash
  fromAddress : after.fromAddress = before.fromAddress
  toAddress : after.toAddress = before.toAddress
  denom : after.denom = before.denom
  amount : after.amount = before.amount
  height : after.height = before.height
  created : after.created = before.created
  status : after.status = before.status ∨
    before.status = Named.text DepositStatus.inserted ∧
      after.status = Named.text DepositStatus.actionComplete

theorem Moves.refl (row : DepositRow) : Moves row row := by
  constructor <;> first | rfl | exact .inl rfl

theorem Moves.trans {first second third : DepositRow} (left : Moves first second)
    (right : Moves second third) : Moves first third where
  id := right.id.trans left.id
  txHash := right.txHash.trans left.txHash
  fromAddress := right.fromAddress.trans left.fromAddress
  toAddress := right.toAddress.trans left.toAddress
  denom := right.denom.trans left.denom
  amount := right.amount.trans left.amount
  height := right.height.trans left.height
  created := right.created.trans left.created
  status := by
    have apart : Named.text DepositStatus.actionComplete ≠ Named.text DepositStatus.inserted := by
      decide
    rcases right.status with kept | ⟨waited, done⟩
    · rw [kept]
      exact left.status
    · rcases left.status with kept | ⟨_, moved⟩
      · exact .inr ⟨kept.symm.trans waited, done⟩
      · exact absurd (moved.symm.trans waited) apart

/-- The row is that of a bank-bound transfer in a batch that was delivered. -/
def Stems (configured : Consumer.Settings → Prop) (delivered : List Chain.Batch)
    (row : DepositRow) : Prop :=
  ∃ settings batch transfer, configured settings ∧ batch ∈ delivered ∧
    transfer ∈ batch.transfers settings.contract ∧
    Consumer.isBankBound settings transfer = true ∧
    row.txHash = transfer.txHash ∧ row.fromAddress = transfer.sender ∧
    row.toAddress = transfer.recipient ∧ row.denom = transfer.denom ∧
    row.amount = transfer.amount ∧
    ∃ height, Height.stored? transfer.height = some height ∧ row.height = .number height

structure Distinct (rows : List DepositRow) : Prop where
  ids : (rows.map DepositRow.id).Nodup
  hashes : (rows.map DepositRow.txHash).Nodup

def Backs (rows : List DepositRow) (deposit : Deposit) : Prop :=
  ∃ row ∈ rows, row.id = deposit.id.text ∧ row.txHash = deposit.txHash ∧
    row.amount = deposit.amount ∧ row.fromAddress = deposit.fromAddress

def isClaimOrCall : Request → Bool
  | .storage (.claim ..) | .notifyBank _ => true
  | _ => false

/-- A claim was granted for this deposit, and what was heard since then was neither another claim
nor the bank. -/
def Claimed (heard : List Exchange) (deposit : Deposit) (since : List Exchange) : Prop :=
  ∃ earlier now limit,
    heard = earlier ++ ⟨.storage (.claim deposit.id now limit), .ok (some deposit)⟩ :: since ∧
    ∀ exchange ∈ since, isClaimOrCall exchange.request = false

/-- The request is the first since the sender's claim of this deposit, which was waiting then,
and after the claim the directory told the sender the account. -/
structure Sent.From (sent : Sent) (deposit : Deposit) (registration : Registration) : Prop where
  claimed : ∃ since, Claimed sent.heard deposit since ∧
    ⟨.storage (.activeRegistration deposit.fromAddress), .ok (some registration)⟩ ∈ since
  waiting : deposit.status = .inserted
  active : registration.active = true
  address : registration.address = deposit.fromAddress
  message : sent.message = ⟨deposit.id, registration.bankAccount, deposit.amount⟩

def Sent.IsFor (sent : Sent) (txHash : String) : Prop :=
  ∃ deposit registration, sent.From deposit registration ∧ deposit.txHash = txHash

def Right (rows : List DepositRow) (sent : Sent) : Prop :=
  ∃ deposit registration, sent.From deposit registration ∧ Backs rows deposit

section Claims

variable {heard since later : List Exchange} {deposit other : Deposit}

theorem Claimed.snoc {exchange : Exchange} (claimed : Claimed heard deposit since)
    (quiet : isClaimOrCall exchange.request = false) :
    Claimed (heard ++ [exchange]) deposit (since ++ [exchange]) := by
  obtain ⟨earlier, now, limit, told, silent⟩ := claimed
  refine ⟨earlier, now, limit, by simp [told], fun heard member => ?_⟩
  rcases List.mem_append.mp member with old | new
  · exact silent heard old
  · rw [List.mem_singleton.mp new]
    exact quiet

def Exchange.granted : Exchange → Option Deposit
  | ⟨.storage (.claim ..), .ok given⟩ => given
  | _ => none

theorem Claimed.last (claimed : Claimed heard deposit since) :
    (heard.reverse.find? fun exchange => isClaimOrCall exchange.request).bind Exchange.granted =
      some deposit := by
  obtain ⟨earlier, now, limit, rfl, silent⟩ := claimed
  have none_since : since.reverse.find? (fun exchange => isClaimOrCall exchange.request) = none :=
    List.find?_eq_none.mpr (by simpa using silent)
  rw [List.reverse_append, List.reverse_cons, List.append_assoc, List.find?_append, none_since]
  rfl

theorem Claimed.unique (first : Claimed heard deposit since) (second : Claimed heard other later) :
    deposit = other :=
  Option.some.inj (first.last.symm.trans second.last)

end Claims

section Rows

variable {configured : Consumer.Settings → Prop} {delivered more : List Chain.Batch}
  {before after : DepositRow} {rows : List DepositRow} {deposit : Deposit} {sent : Sent}

theorem Stems.moves (stems : Stems configured delivered before) (moves : Moves before after)
    (grown : delivered ⊆ more) : Stems configured more after := by
  obtain ⟨settings, batch, transfer, known, member, among, bound, hash, sender, recipient, denom,
    amount, height, fits, stored⟩ := stems
  exact ⟨settings, batch, transfer, known, grown member, among, bound, moves.txHash.trans hash,
    moves.fromAddress.trans sender, moves.toAddress.trans recipient, moves.denom.trans denom,
    moves.amount.trans amount, height, fits, moves.height.trans stored⟩

theorem Backs.moves {change : DepositRow → DepositRow} (backs : Backs rows deposit)
    (moves : ∀ row, Moves row (change row)) (added : List DepositRow) :
    Backs (rows.map change ++ added) deposit := by
  obtain ⟨row, member, id, hash, amount, sender⟩ := backs
  have moved := moves row
  exact ⟨change row, List.mem_append_left _ (List.mem_map_of_mem member), moved.id.trans id,
    moved.txHash.trans hash, moved.amount.trans amount, moved.fromAddress.trans sender⟩

theorem moves_revise {statement : Store.Statement} (row : DepositRow)
    (proper : ∀ id source target now, statement = .advance id source target now →
      source = .inserted ∧ target = .actionComplete) : Moves row (statement.revise row) := by
  cases statement with
  | claim | release =>
      simp only [Store.Statement.revise]
      split
      · constructor <;> first | rfl | exact .inl rfl
      · exact .refl row
  | advance id source target now =>
      obtain ⟨rfl, rfl⟩ := proper id source target now rfl
      simp only [Store.Statement.revise]
      split
      · rename_i waits
        rw [DepositRow.isAt, Bool.and_eq_true, decide_eq_true_eq, decide_eq_true_eq] at waits
        constructor <;> first | rfl | exact .inr ⟨waits.2, rfl⟩
      · exact .refl row
  | _ => exact .refl row

end Rows

/-- What may happen to the state, by whomever. -/
structure Onward (configured : Consumer.Settings → Prop) (before after : State) : Prop where
  rows : ∃ change added, after.store.deposits = before.store.deposits.map change ++ added ∧
    (∀ row, Moves row (change row)) ∧ ∀ row ∈ added, Stems configured after.delivered row
  distinct : Distinct before.store.deposits → Distinct after.store.deposits
  delivered : before.delivered ⊆ after.delivered
  sent : ∃ more, after.sent = before.sent ++ more ∧
    ∀ sent ∈ more, Right after.store.deposits sent

namespace Onward

variable {configured : Consumer.Settings → Prop} {first second third before after : State}

theorem backs (onward : Onward configured before after) {deposit : Deposit}
    (backs : Backs before.store.deposits deposit) : Backs after.store.deposits deposit := by
  obtain ⟨change, added, same, moves, _⟩ := onward.rows
  rw [same]
  exact backs.moves moves added

theorem right (onward : Onward configured before after) {sent : Sent}
    (right : Right before.store.deposits sent) : Right after.store.deposits sent := by
  obtain ⟨deposit, registration, source, backs⟩ := right
  exact ⟨deposit, registration, source, onward.backs backs⟩

theorem unmoved (rows : after.store.deposits = before.store.deposits)
    (delivered : before.delivered ⊆ after.delivered) (sent : after.sent = before.sent) :
    Onward configured before after where
  rows := ⟨id, [], by simp [rows], Moves.refl, by simp⟩
  distinct := by rw [rows]; exact id
  delivered
  sent := ⟨[], by simp [sent], by simp⟩

theorem trans (left : Onward configured first second) (right : Onward configured second third) :
    Onward configured first third where
  rows := by
    obtain ⟨change, added, same, moves, stems⟩ := left.rows
    obtain ⟨later, more, yet, moved, stem⟩ := right.rows
    refine ⟨later ∘ change, added.map later ++ more, ?_, ?_, ?_⟩
    · rw [yet, same, List.map_append, List.map_map, List.append_assoc]
    · exact fun row => (moves row).trans (moved (change row))
    · intro row member
      rcases List.mem_append.mp member with old | new
      · obtain ⟨source, there, rfl⟩ := List.mem_map.mp old
        exact (stems source there).moves (moved source) right.delivered
      · exact stem row new
  distinct := right.distinct ∘ left.distinct
  delivered := List.Subset.trans left.delivered right.delivered
  sent := by
    obtain ⟨earlier, same, was⟩ := left.sent
    obtain ⟨later, yet, is⟩ := right.sent
    refine ⟨earlier ++ later, by rw [yet, same, List.append_assoc], fun sent member => ?_⟩
    rcases List.mem_append.mp member with old | new
    · exact right.right (was sent old)
    · exact is sent new

end Onward

def Supports (configured : Consumer.Settings → Prop) (delivered : List Chain.Batch) :
    Request → Prop
  | .storage (.addDeposit record) => ∃ settings batch transfer, configured settings ∧
      batch ∈ delivered ∧ transfer ∈ batch.transfers settings.contract ∧
      Consumer.isBankBound settings transfer = true ∧ Consumer.IsDepositOf transfer record
  | .storage (.advance _ source target _) => source = .inserted ∧ target = .actionComplete
  | .notifyBank _ => False
  | _ => True

section Supports

variable {configured : Consumer.Settings → Prop} {delivered more : List Chain.Batch}
  {before after state : State} {heard : List Exchange}

theorem Supports.later {request : Request} (supports : Supports configured delivered request)
    (grown : delivered ⊆ more) : Supports configured more request := by
  cases request with
  | storage statement =>
      cases statement with
      | addDeposit record =>
          obtain ⟨settings, batch, transfer, known, member, rest⟩ := supports
          exact ⟨settings, batch, transfer, known, grown member, rest⟩
      | _ => exact supports
  | _ => exact supports

theorem Distinct.run {statement : Store.Statement} {store : Store}
    (distinct : Distinct store.deposits) : Distinct (statement.run store).2.deposits := by
  rcases Store.deposits_grow statement store with same | ⟨record, rfl, free, grown⟩
  · rw [same]
    exact ⟨by rw [Store.revise_ids]; exact distinct.ids,
      by rw [Store.revise_hashes]; exact distinct.hashes⟩
  · have ids : ∀ row ∈ store.deposits, row.id ≠ record.row.id :=
      fun row member => (free row member).1
    have hashes : ∀ row ∈ store.deposits, row.txHash ≠ record.row.txHash :=
      fun row member => (free row member).2
    rw [grown]
    constructor
    · rw [List.map_append, Store.revise_ids]
      simpa [List.nodup_append, List.mem_map] using ⟨distinct.ids, ids⟩
    · rw [List.map_append, Store.revise_hashes]
      simpa [List.nodup_append, List.mem_map] using ⟨distinct.hashes, hashes⟩

theorem onward_run {statement : Store.Statement}
    (supports : Supports configured before.delivered (.storage statement))
    (ran : after.store = (statement.run before.store).2)
    (delivered : before.delivered ⊆ after.delivered) (sent : after.sent = before.sent) :
    Onward configured before after := by
  have proper : ∀ id source target now, statement = .advance id source target now →
      source = .inserted ∧ target = .actionComplete := by
    rintro id source target now rfl
    exact supports
  refine ⟨?_, ?_, delivered, [], by simp [sent], by simp⟩
  · rw [ran]
    rcases Store.deposits_grow statement before.store with same | ⟨record, rfl, _, grown⟩
    · refine ⟨statement.revise, [], by rw [same, List.append_nil], ?_, by simp⟩
      exact fun row => moves_revise row proper
    · refine ⟨_, [record.row], grown, fun row => moves_revise row proper, ?_⟩
      intro row member
      rw [List.mem_singleton.mp member]
      obtain ⟨settings, batch, transfer, known, there, among, bound, stamp, height, fits, rfl⟩ :=
        supports
      exact ⟨settings, batch, transfer, known, delivered there, among, bound, rfl, rfl, rfl, rfl,
        rfl, height, fits, rfl⟩
  · rw [ran]
    exact Distinct.run

theorem onward_supported {request : Request} {reply : request.Reply}
    (supports : Supports configured before.delivered request)
    (answered : world.answers heard request before reply after) :
    Onward configured before after := by
  obtain ⟨told, delivered, sent⟩ := answered
  have grown : before.delivered ⊆ after.delivered := by
    rw [delivered]
    exact List.subset_append_left _ _
  have silent : after.sent = before.sent := by
    rw [sent]
    cases request with
    | notifyBank message => exact supports.elim
    | _ => exact List.append_nil _
  rcases Finality.told_store told with same | ⟨statement, rfl, ran⟩
  · exact .unmoved (by rw [same]) grown silent
  · exact onward_run supports ran grown silent

def pact (configured : Consumer.Settings → Prop) : Pact world where
  own _ := Onward configured
  others := Onward configured
  refl _ := .unmoved rfl (List.Subset.refl _) rfl
  trans := Onward.trans
  own_others := id
  elsewhere happened := .unmoved happened.1 (by rw [happened.2.1]; exact List.Subset.refl _)
    happened.2.2

theorem abides_supported {ε α : Type} {activity : Activity ε α}
    (asks : activity.Asks (Supports configured delivered)) (grown : delivered ⊆ state.delivered) :
    activity.Abides (pact configured) (fun _ _ _ => True) heard state := by
  induction activity generalizing heard state with
  | done result => exact fun _ _ => trivial
  | ask request next ih =>
      intro between passed reply after answered
      have reached := List.Subset.trans grown passed.delivered
      have step := onward_supported (asks.1.later reached) answered
      exact ⟨step, ih reply (asks.2 reply) (List.Subset.trans reached step.delivered)⟩

end Supports

section Consumers

open Consumer

variable {configured : Settings → Prop} {delivered : List Chain.Batch} {settings : Settings}
  {batch : Chain.Batch}

theorem mem_transfers {transfer : Chain.Transfer}
    (member : .transfer transfer ∈ settings.observed batch) :
    transfer ∈ batch.transfers settings.contract := by
  simpa [Settings.observed, observe] using member

variable (known : configured settings)

include known

theorem supports_serves {observed : Observed} (there : batch ∈ delivered)
    (member : observed ∈ settings.observed batch) (request : Request)
    (serves : Serves settings observed request) : Supports configured delivered request := by
  rcases serves with rfl | reconciles | admission
  · trivial
  · cases request with
    | storage statement => cases statement <;> trivial
    | notifyBank => cases reconciles
    | _ => trivial
  · cases request with
    | storage statement =>
        cases statement with
        | addDeposit record =>
            obtain ⟨transfer, rfl, bound, made⟩ := admission
            exact ⟨settings, batch, transfer, known, there, mem_transfers member, bound, made⟩
        | advance => cases admission
        | _ => trivial
    | notifyBank => cases admission
    | _ => trivial

theorem supports_consumeItem (item : Except Chain.Failure Chain.Batch)
    (there : ∀ batch, item = .ok batch → batch ∈ delivered) :
    (consumeItem settings item).Asks (Supports configured delivered) := by
  cases item with
  | error failure => trivial
  | ok batch =>
      have events : (handleEvents settings batch (batch.transfers settings.contract)).Asks
          (Supports configured delivered) :=
        asks_forEach fun observed member => (serves_handleObserved settings observed).mono
          (supports_serves known (there batch rfl) member)
      have records : (recordBlock settings batch.height batch).Asks
          (Supports configured delivered) := by
        refine (asks_recordBlock settings batch.height batch).mono fun request enters => ?_
        cases request with
        | storage statement => cases statement <;> trivial
        | notifyBank => cases enters
        | _ => trivial
      have handled : (handleBatch settings batch).Asks (Supports configured delivered) :=
        events.bind fun _ => records.discard
      refine (handled.mapFailure _).bind fun _ => ?_
      refine (asks_storedHeight batch.height).bind fun height => ?_
      exact ⟨trivial, fun stamp => asks_storage trivial⟩

theorem abides_consume (heard : List Exchange) (state : State) :
    (consume settings).Abides (pact configured) (fun _ _ _ => True) heard state := by
  have opens : (openCursor settings).Asks (Supports configured []) :=
    asks_openCursor settings trivial trivial fun _ _ => trivial
  refine (abides_supported opens (List.nil_subset _)).bind ?_ fun _ _ _ _ => trivial
  intro heard cursor state _
  cases Height.next? (Height.shown cursor.height) with
  | none => exact fun _ _ => trivial
  | some height =>
      intro between _ items after answered
      have asked : Supports configured between.delivered
        (.openStream Chain.Event.streamedTypes height) := trivial
      refine ⟨onward_supported asked answered, ?_⟩
      have came : ∀ batch, .ok batch ∈ items → batch ∈ after.delivered := by
        intro batch member
        rw [answered.2.1]
        exact List.mem_append_right _ (List.mem_filterMap.mpr ⟨_, member, rfl⟩)
      refine abides_supported (asks_forEach fun item member => ?_) (List.Subset.refl _)
      refine supports_consumeItem known item ?_
      rintro batch rfl
      exact came batch member

theorem abides_supervise (rounds : Nat) (heard : List Exchange) (state : State) :
    (supervise settings rounds).Abides (pact configured) (fun _ _ _ => True) heard state := by
  induction rounds generalizing heard state with
  | zero => exact fun _ _ => trivial
  | succ rounds ih =>
      exact (abides_consume known heard state).attempt fun heard _ state _ => ih heard state

end Consumers

section Workers

open DepositQueue

variable {configured : Consumer.Settings → Prop} {heard : List Exchange} {state : State}
  {deposit : Deposit}

theorem claim_backs {id : Uuid} {now limit : Int} {store after : Store}
    (granted : (.ok (some deposit), after) = (Store.Statement.claim id now limit).run store) :
    deposit.id = id ∧ deposit.status = .inserted ∧ Backs after.deposits deposit := by
  obtain ⟨reply, made⟩ := Prod.ext_iff.mp granted
  obtain ⟨row, hit, reads⟩ := Store.readOptional_some reply.symm
  have claimable := List.find?_some hit
  simp only [DepositRow.isClaimable, DepositRow.isPending, Bool.and_eq_true,
    decide_eq_true_eq] at claimable
  obtain ⟨same, waits, _⟩ := claimable
  obtain ⟨readId, hash, sender, amount, status⟩ := row.read_ok reads
  have own : deposit.id = id := by
    rw [same, Uuid.ofText?_text] at readId
    exact (Option.some.inj readId).symm
  have waiting : deposit.status = .inserted := by
    rw [waits] at status
    cases known : deposit.status with
    | inserted => rfl
    | _ => rw [known] at status; revert status; decide
  have backs : Backs store.deposits deposit :=
    ⟨row, List.mem_of_find?_eq_some hit, by rw [same, own], hash, amount, sender⟩
  have moves : ∀ row, Moves row ((Store.Statement.claim id now limit).revise row) := by
    intro row
    apply moves_revise
    rintro _ _ _ _ ⟨⟩
  have kept := backs.moves moves []
  rw [List.append_nil] at kept
  refine ⟨own, waiting, ?_⟩
  have rows : after.deposits = store.deposits.map (Store.Statement.claim id now limit).revise :=
    congrArg Store.deposits made
  rwa [rows]

theorem account_found {address : String} {registration : Registration} {store after : Store}
    (found : (.ok (some registration), after) =
      (Store.Statement.activeRegistration address).run store) :
    registration.active = true ∧ registration.address = address := by
  have reply := (Prod.ext_iff.mp found).1.symm
  simp only [Store.Statement.run, Store.latestActiveRegistration] at reply
  cases latest : Store.newest (store.registrations.filter fun row =>
      row.address = address && row.active) with
  | none => simp [latest, Store.readOptional] at reply
  | some row =>
      have reads : row.read = .ok registration := by
        cases read : row.read <;> simp_all [Store.readOptional, Except.map]
      obtain ⟨sameAddress, sameActive⟩ := row.read_ok reads
      have chosen := (List.mem_filter.mp (Store.newest_mem latest)).2
      rw [Bool.and_eq_true, decide_eq_true_eq] at chosen
      exact ⟨sameActive.symm.trans chosen.2, sameAddress.symm.trans chosen.1⟩

theorem onward_called {message : Bank.Request} {before after : State}
    {reply : Request.Reply (.notifyBank message)}
    (right : Right before.store.deposits ⟨message, heard⟩)
    (answered : world.answers heard (.notifyBank message) before reply after) :
    Onward configured before after := by
  obtain ⟨same, delivered, sent⟩ := answered
  have rows : after.store.deposits = before.store.deposits := congrArg Store.deposits same
  have still : Onward configured before { after with sent := before.sent } := by
    refine .unmoved rows ?_ rfl
    rw [delivered]
    exact List.subset_append_left _ _
  refine ⟨still.rows, still.distinct, still.delivered, _, sent, ?_⟩
  intro call member
  rw [List.mem_singleton.mp member, rows]
  exact right

theorem right_request {rows : List DepositRow} {since : List Exchange}
    {registration : Registration} (claimed : Claimed heard deposit since)
    (waiting : deposit.status = .inserted)
    (account : registration.active = true ∧ registration.address = deposit.fromAddress)
    (backs : Backs rows deposit) :
    Right rows ⟨⟨deposit.id, registration.bankAccount, deposit.amount⟩,
      heard ++ [⟨.storage (.activeRegistration deposit.fromAddress),
        .ok (some registration)⟩]⟩ := by
  have lookedUp : Claimed (heard ++ [⟨.storage (.activeRegistration deposit.fromAddress),
      .ok (some registration)⟩]) deposit _ := claimed.snoc rfl
  exact ⟨deposit, registration, ⟨⟨_, lookedUp, by simp⟩, waiting, account.1, account.2, rfl⟩,
    backs⟩

theorem abides_notifyBank
    {next : Except DepositQueue.Failure Unit → Activity DepositQueue.Failure Bool}
    {since : List Exchange} (claimed : Claimed heard deposit since)
    (waiting : deposit.status = .inserted) (backs : Backs state.store.deposits deposit)
    (rest : ∀ result heard state,
      (next result).Abides (pact configured) (fun _ _ _ => True) heard state) :
    ((notifyBank deposit.id deposit.fromAddress deposit.amount).attempt next).Abides
      (pact configured) (fun _ _ _ => True) heard state := by
  unfold notifyBank Directory.resolveActive
  by_cases empty : deposit.fromAddress.isEmpty = true
  · rw [if_pos empty]
    exact rest (.error (.notRegistered deposit.fromAddress)) heard state
  · rw [if_neg empty]
    intro between passed reply looked found
    have asked : Supports configured between.delivered
      (.storage (.activeRegistration deposit.fromAddress)) := trivial
    have step := onward_supported asked found
    refine ⟨step, ?_⟩
    rcases reply with fault | _ | registration
    · exact rest _ _ _
    · exact rest _ _ _
    · have account := account_found (Finality.told_ok found.1)
      intro calling further verdict called answered
      -- The deposit was claimed two turns ago, and others had theirs before each of these.
      have still := further.backs (step.backs (passed.backs backs))
      refine ⟨onward_called (right_request claimed waiting account still) answered, ?_⟩
      cases verdict with
      | error failure => exact rest _ _ _
      | ok accepted => exact rest _ _ _

theorem abides_process (ttl : Span) (id : Uuid) (heard : List Exchange) (state : State) :
    (process ttl id).Abides (pact configured) (fun _ _ _ => True) heard state := by
  rw [process_asks]
  intro starting _ now started timed
  have clocked : Supports configured starting.delivered .clock := trivial
  refine ⟨onward_supported clocked timed, ?_⟩
  dsimp only
  cases claimEnd? now ttl with
  | none => exact fun _ _ => trivial
  | some limit =>
      intro claiming _ reply claimed answered
      have asked : Supports configured claiming.delivered (.storage (.claim id now limit)) :=
        trivial
      refine ⟨onward_supported asked answered, ?_⟩
      -- Only a granted claim leads on.
      match reply, answered with
      | .error fault, _ => exact fun _ _ => trivial
      | .ok none, _ => exact fun _ _ => trivial
      | .ok (some deposit), answered =>
          obtain ⟨rfl, waiting, backs⟩ := claim_backs (Finality.told_ok answered.1)
          refine abides_notifyBank ⟨_, now, limit, rfl, by simp⟩ waiting backs ?_
          intro result heard state
          refine abides_supported ?_ (List.nil_subset _)
          cases result with
          | error failure => exact (asks_storage trivial).bind fun _ => trivial
          | ok _ => exact ⟨trivial, fun stamp => (asks_storage ⟨rfl, rfl⟩).bind fun _ => trivial⟩

theorem abides_load (heard : List Exchange) (state : State) :
    load.Abides (pact configured) (fun _ _ _ => True) heard state := by
  have asks : load.Asks (Supports configured []) := ⟨trivial, fun _ => asks_storage trivial⟩
  exact abides_supported asks (List.nil_subset _)

end Workers

theorem abides_unheeded {configured : Consumer.Settings → Prop} {ε α : Type}
    {activity : Activity ε α} {heard : List Exchange} {state : State}
    (abides : activity.Abides (pact configured) (fun _ _ _ => True) heard state) :
    (unheeded activity).Abides (pact configured) (fun _ _ _ => True) heard state :=
  (abides.mapFailure _).discard

theorem Joins.abides {configured : Consumer.Settings → Prop}
    {party : Party (List Exchange) Unit Unit} (joins : Joins configured party) (state : State) :
    party.rest.Abides (pact configured) (fun _ _ _ => True) party.memory state := by
  cases joins with
  | consumer known rounds => exact abides_unheeded (abides_supervise known rounds [] state)
  | loader => exact abides_unheeded (abides_load [] state)
  | worker ttl id => exact abides_unheeded (abides_process ttl id [] state)

section Main

variable {configured : Consumer.Settings → Prop} {start : Store}
  {scene later : Scene State (List Exchange) Unit Unit}

theorem reaches_onward (reaches : world.Reaches (Joins configured) (atRest start) scene) :
    Onward configured ⟨start, [], []⟩ scene.state ∧ ∀ party ∈ scene.parties,
      party.rest.Abides (pact configured) (fun _ _ _ => True) party.memory scene.state :=
  reaches.abides (fun _ joins state _ => joins.abides state) fun _ none =>
    absurd none List.not_mem_nil

theorem Right.own {rows : List DepositRow} {row : DepositRow} {sent : Sent}
    (right : Right rows sent) (distinct : Distinct rows) (member : row ∈ rows)
    (isFor : sent.IsFor row.txHash) :
    sent.message.id.text = row.id ∧ sent.message.amount = row.amount := by
  obtain ⟨deposit, registration, source, backing, there, id, hash, amount, _⟩ := right
  obtain ⟨other, _, also, same⟩ := isFor
  -- What the sender has heard tells which deposit it has claimed.
  obtain ⟨_, claimed, _⟩ := source.claimed
  obtain ⟨_, alike, _⟩ := also.claimed
  have unique := claimed.unique alike
  have agree : backing.txHash = row.txHash := by rw [hash, unique, same]
  obtain rfl := List.inj_on_of_nodup_map distinct.hashes there member agree
  rw [source.message]
  exact ⟨id.symm, amount.symm⟩

/-- From any state of a run on, no deposit is lost and what a deposit is stays as it was, the
status moves from waiting to done only, and new deposits are transfers that were delivered. Each
request for a transaction's deposit carries the id and the amount of its row, and it is the first
one since its sender claimed that row, by when it waited, and found the account. -/
theorem deposits_keep_their_identity (distinct : Distinct start.deposits)
    (reaches : world.Reaches (Joins configured) (atRest start) scene)
    (onward : world.Reaches (Joins configured) scene later) :
    (∃ change added,
      later.state.store.deposits = scene.state.store.deposits.map change ++ added ∧
      (∀ row, Moves row (change row)) ∧
      ∀ row ∈ added, Stems configured later.state.delivered row) ∧
    Distinct later.state.store.deposits ∧
    (∃ more, later.state.sent = scene.state.sent ++ more) ∧
    ∀ sent ∈ later.state.sent, Right later.state.store.deposits sent ∧
      ∀ row ∈ later.state.store.deposits, sent.IsFor row.txHash →
        sent.message.id.text = row.id ∧ sent.message.amount = row.amount := by
  obtain ⟨sofar, abides⟩ := reaches_onward reaches
  have since : Onward configured scene.state later.state :=
    (onward.abides (fun _ joins state _ => joins.abides state) abides).1
  have whole := sofar.trans since
  have apart := whole.distinct distinct
  obtain ⟨more, grown, _⟩ := since.sent
  obtain ⟨_, all, rights⟩ := whole.sent
  refine ⟨since.rows, apart, ⟨more, grown⟩, fun sent member => ?_⟩
  rw [all] at member
  have right := rights sent member
  exact ⟨right, fun row there => right.own apart there⟩

end Main

/-- A worker claims the only deposit, finds the account and calls the bank. -/
theorem one_request_for_a_claim : ∃ later : Scene State (List Exchange) Unit Unit,
    later.state.sent.map Sent.message = [⟨zeroStamp.id, zeroStamp.id, "5"⟩] ∧
    Distinct later.state.store.deposits ∧
    ∀ sent ∈ later.state.sent, Right later.state.store.deposits sent := by
  have ends : claimEnd? 0 (.ofSeconds 60) = some 60000 := by decide +kernel
  have distinct : Distinct oneWaits.store.deposits := ⟨by simp [oneWaits], by simp [oneWaits]⟩
  have joined : world.Reaches (Joins fun _ => True) (atRest oneWaits.store)
      ⟨⟨oneWaits.store, [], []⟩, [⟨[], unheeded (process (.ofSeconds 60) zeroStamp.id)⟩]⟩ :=
    .single (.join (.worker (.ofSeconds 60) zeroStamp.id))
  rw [process_asks] at joined
  have timed := joined.only_answer
    (show world.answers _ .clock _ (0 : Int) ⟨oneWaits.store, [], []⟩ from ⟨rfl, rfl, rfl⟩)
  dsimp only at timed
  rw [ends] at timed
  have claimed := timed.only_answer (show world.answers _ (.storage (.claim zeroStamp.id 0 60000))
    _ (.ok (some oneDeposit)) ⟨_, [], []⟩ from
      ⟨.inl (oneDeposit_claimed (by rfl) rfl).symm, rfl, rfl⟩)
  have found := claimed.only_answer (show world.answers _ (.storage (.activeRegistration "a"))
    _ (.ok (some oneAccount)) ⟨_, [], []⟩ from ⟨.inl (oneAccount_found (by rfl)).symm, rfl, rfl⟩)
  have called := found.only_answer
    (show world.answers _ (.notifyBank _) _ (.ok ()) ⟨_, [], [⟨_, _⟩]⟩ from ⟨rfl, rfl, rfl⟩)
  obtain ⟨_, apart, _, sent⟩ := deposits_keep_their_identity distinct .refl called
  exact ⟨_, rfl, apart, fun request member => (sent request member).1⟩

end Settlement.DepositIdentity
