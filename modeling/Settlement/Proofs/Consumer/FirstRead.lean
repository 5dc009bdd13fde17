import Settlement.Proofs.Consumer.Delivery
import Settlement.Proofs.Consumer.Finality

/-!
A tracked transaction over any number of deliveries of batches. The reads of the transaction
are counted, and the chain may answer each of them or fail. Whatever comes of the last read
before the first write that takes effect is what the write says, also if the read failed. It
is terminal, so there is no other read; and unless a storage call fails or a delivery is cut
short, that read is the first one.
-/

namespace Settlement.FirstRead

open Activity Consumer
open Finality (ChainAnswer)
open Store (Identified findTracked)

structure Watched where
  store : Store
  reads : Nat

/-- The chain's replies to the reads of one transaction are given, all other replies from outside
are any, and a storage call that fails may have taken effect. Others may do what they like to all
tables but the tracked transactions. -/
def answers (faultless : Prop) (txHash : String) (chain : Nat → ChainAnswer) : Answering Watched
  | .transaction other, before, reply, after => after.store.tracked = before.store.tracked ∧
      if other = txHash then reply = chain before.reads ∧ after.reads = before.reads + 1
      else after.reads = before.reads
  | .storage statement, before, reply, after => after.reads = before.reads ∧
      ∃ seen : Store, seen.tracked = before.store.tracked ∧
        Finality.told (.storage statement) seen reply after.store ∧
        (faultless → (reply, after.store) = statement.run seen)
  | _, before, _, after => after.store.tracked = before.store.tracked ∧ after.reads = before.reads

inductive Decides : ChainAnswer → TxStatus → Option String → Prop where
  | confirmed {tx : Chain.TxResponse} (code : tx.result.code = 0) :
      Decides (.ok (some tx)) .complete none
  | rejected {tx : Chain.TxResponse} (code : tx.result.code ≠ 0) :
      Decides (.ok (some tx)) .error (some tx.result.log)
  | unknown : Decides (.ok none) .error (some nullResponse)
  | unread (failure : Chain.Failure) : Decides (.error failure) .error (some nullResponse)

theorem decides_verdict (answer : ChainAnswer) :
    Decides answer (verdict answer).1 (verdict answer).2 := by
  rcases answer with failure | _ | tx
  · exact .unread failure
  · exact .unknown
  · by_cases code : tx.result.code = 0
    · simpa [verdict, Chain.TxResponse.isFailed, code] using Decides.confirmed code
    · simpa [verdict, Chain.TxResponse.isFailed, code] using Decides.rejected code

theorem Decides.terminal {answer : ChainAnswer} {status : TxStatus} {message : Option String}
    (decides : Decides answer status message) : status.isTerminal = true := by
  cases decides <;> rfl

theorem Decides.unread_status {failure : Chain.Failure} {status : TxStatus}
    {message : Option String} (decides : Decides (.error failure) status message) :
    status = .error := by
  cases decides
  rfl

theorem Decides.confirmed_status {tx : Chain.TxResponse} {status : TxStatus}
    {message : Option String} (decides : Decides (.ok (some tx)) status message)
    (code : tx.result.code = 0) : status = .complete := by
  cases decides with
  | confirmed _ => rfl
  | rejected failed => exact absurd code failed

/-- Deliveries of batches one after the other, each with what was left of its handling. -/
inductive Deliveries (faultless : Prop) (settings : Settings) (txHash : String)
    (chain : Nat → ChainAnswer) (start : Watched) :
    List (Chain.Batch × Activity Failure Unit) → Watched → Prop where
  | none : Deliveries faultless settings txHash chain start [] start
  | more {deliveries : List (Chain.Batch × Activity Failure Unit)} {before after : Watched}
      {batch : Chain.Batch} {rest : Activity Failure Unit} :
      Deliveries faultless settings txHash chain start deliveries before →
      Run (answers faultless txHash chain) (fun _ => False) (handleBatch settings batch) before
        rest after →
      (faultless → ∃ result, rest = .done result) →
      Deliveries faultless settings txHash chain start (deliveries ++ [(batch, rest)]) after

/-- The given read was the last one, and the record says what came of it. -/
def DecidedBy (txHash : String) (chain : Nat → ChainAnswer) (record : Store.Tracked)
    (state : Watched) (read : Nat) : Prop :=
  state.reads = read + 1 ∧ ∃ status message now, Decides (chain read) status message ∧
    findTracked state.store.tracked txHash =
      .ok (some { record with status, message, updated := now })

/-- The transaction waits, or a read has decided. -/
inductive Fate (faultless : Prop) (txHash : String) (chain : Nat → ChainAnswer)
    (record : Store.Tracked) (state : Watched) : Prop where
  | waits (unread : faultless → state.reads = 0)
      (found : findTracked state.store.tracked txHash = .ok (some record))
  | decided (read : Nat) (first : faultless → read = 0)
      (decided : DecidedBy txHash chain record state read)

def Settled (txHash : String) (state : Watched) : Prop :=
  ∃ tracked, findTracked state.store.tracked txHash = .ok (some tracked) ∧
    tracked.status.isTerminal = true

structure Still (txHash : String) (before after : Watched) : Prop where
  reads : after.reads = before.reads
  found : findTracked after.store.tracked txHash = findTracked before.store.tracked txHash

/-- Here `former` are states in which it had been settled before. -/
structure Fated (faultless : Prop) (former : Watched → Prop) (txHash : String)
    (chain : Nat → ChainAnswer) (record : Store.Tracked) (state : Watched) : Prop where
  identified : Identified state.store.tracked
  fate : Fate faultless txHash chain record state
  lasts : ∀ origin, former origin → Settled txHash state ∧ Still txHash origin state

structure Leaves (faultless : Prop) (former : Watched → Prop) (txHash : String)
    (chain : Nat → ChainAnswer) (record : Store.Tracked) (own : Prop) (before : Watched)
    (result : Except Failure Unit) (after : Watched) : Prop where
  fated : Fated faultless former txHash chain record after
  lasts : Settled txHash before → Settled txHash after
  settles : result = .ok () → own → Settled txHash after

def Aside (txHash : String) : Request → Prop
  | .transaction other => other ≠ txHash
  | .storage (.settle other ..) => other ≠ txHash
  | _ => True

variable {faultless : Prop} {former : Watched → Prop} {settings : Settings} {txHash : String}
  {chain : Nat → ChainAnswer} {record : Store.Tracked} {state before after : Watched}

theorem DecidedBy.settled {read : Nat} (decided : DecidedBy txHash chain record state read) :
    Settled txHash state := by
  obtain ⟨_, status, message, now, decides, found⟩ := decided
  exact ⟨_, found, decides.terminal⟩

theorem Fated.weaken (fated : Fated faultless former txHash chain record state) :
    Fated False former txHash chain record state := by
  refine ⟨fated.identified, ?_, fated.lasts⟩
  cases fated.fate with
  | waits _ found => exact .waits False.elim found
  | decided read _ decided => exact .decided read False.elim decided

theorem Settled.still (settled : Settled txHash before) (still : Still txHash before after) :
    Settled txHash after := by
  obtain ⟨tracked, found, terminal⟩ := settled
  exact ⟨tracked, still.found.trans found, terminal⟩

theorem Fated.still (fated : Fated faultless former txHash chain record before)
    (identified : Identified after.store.tracked) (still : Still txHash before after) :
    Fated faultless former txHash chain record after := by
  refine ⟨identified, ?_, ?_⟩
  · cases fated.fate with
    | waits unread found =>
        exact .waits (fun careful => still.reads.trans (unread careful)) (still.found.trans found)
    | decided read first decided =>
        obtain ⟨reads, status, message, now, decides, found⟩ := decided
        exact .decided read first
          ⟨still.reads.trans reads, status, message, now, decides, still.found.trans found⟩
  · intro origin known
    obtain ⟨settled, kept⟩ := fated.lasts origin known
    exact ⟨settled.still still, still.reads.trans kept.reads, still.found.trans kept.found⟩

theorem Fated.found (fated : Fated faultless former txHash chain record state) :
    ∃ tracked, findTracked state.store.tracked txHash = .ok (some tracked) := by
  cases fated.fate with
  | waits _ found => exact ⟨record, found⟩
  | decided _ _ decided =>
      obtain ⟨_, _, _, _, _, found⟩ := decided
      exact ⟨_, found⟩

theorem not_settled (live : record.status.isTerminal = false)
    (found : findTracked state.store.tracked txHash = .ok (some record)) :
    ¬ Settled txHash state := by
  rintro ⟨tracked, there, terminal⟩
  obtain rfl := Option.some.inj (Except.ok.inj (there.symm.trans found))
  rw [live] at terminal
  cases terminal

theorem fated_waiting (identified : Identified state.store.tracked)
    (found : findTracked state.store.tracked txHash = .ok (some record))
    (fresh : ∀ origin, ¬ former origin) : Fated False former txHash chain record state :=
  ⟨identified, .waits False.elim found, fun origin known => absurd known (fresh origin)⟩

theorem Fated.decided (fated : Fated faultless former txHash chain record state)
    (live : record.status.isTerminal = false) (settled : Settled txHash state) :
    ∃ read, (faultless → read = 0) ∧ DecidedBy txHash chain record state read := by
  cases fated.fate with
  | waits _ found => exact absurd settled (not_settled live found)
  | decided read first decided => exact ⟨read, first, decided⟩

theorem Fated.settled (fated : Fated faultless former txHash chain record state)
    (settled : Settled txHash state) : Fated faultless (· = state) txHash chain record state := by
  refine ⟨fated.identified, fated.fate, ?_⟩
  rintro _ rfl
  exact ⟨settled, rfl, rfl⟩

theorem still_aside {request : Request} {reply : request.Reply} (aside : Aside txHash request)
    (answered : answers faultless txHash chain request before reply after)
    (identified : Identified before.store.tracked) :
    Identified after.store.tracked ∧ Still txHash before after := by
  have unmoved : after.reads = before.reads → after.store.tracked = before.store.tracked →
      Identified after.store.tracked ∧ Still txHash before after := by
    intro reads tracked
    exact ⟨by rw [tracked]; exact identified, reads, by rw [tracked]⟩
  cases request with
  | storage statement =>
      obtain ⟨reads, seen, same, told, _⟩ := answered
      -- Of all storage calls only a settling one writes these rows, and it is for another hash.
      by_cases plain : Finality.Plain (.storage statement)
      · exact unmoved reads ((Finality.told_tracked plain told).trans same)
      · cases statement with
        | settle other status message now =>
            rcases Finality.told_store told with kept | ⟨_, ⟨rfl⟩, made⟩
            · exact unmoved reads (by rw [kept, same])
            · simp only [Store.Statement.run] at made
              split at made
              · rename_i rows settled
                rw [same] at settled
                refine ⟨?_, reads, ?_⟩ <;> rw [made]
                · exact identified.settle settled
                · exact Store.settle_other identified aside settled
              · exact unmoved reads (by rw [made, same])
        | _ => exact absurd trivial plain
  | transaction other =>
      obtain ⟨tracked, asked⟩ := answered
      rw [if_neg aside] at asked
      exact unmoved asked tracked
  | _ => exact unmoved answered.2 answered.1

theorem keeps_aside {ε α : Type} {activity : Activity ε α} (asks : activity.Asks (Aside txHash))
    (fated : Fated faultless former txHash chain record state) :
    activity.Keeps (answers faultless txHash chain)
      (fun _ after => Fated False former txHash chain record after) (fun _ after =>
        Fated faultless former txHash chain record after ∧
          (Settled txHash state → Settled txHash after)) state := by
  induction activity generalizing state with
  | done result => exact ⟨fated, id⟩
  | ask request next ih =>
      intro reply after answered
      obtain ⟨identified, still⟩ := still_aside asks.1 answered fated.identified
      have kept := fated.still identified still
      refine ⟨kept.weaken, (ih reply (asks.2 reply) kept).mono ?_⟩
      exact fun _ _ ended => ⟨ended.1, fun settled => ended.2 (settled.still still)⟩

theorem aside_of_admission {observed : Observed} (other : observed.txHash ≠ txHash)
    (request : Request) (admission : Admission settings observed request) :
    Aside txHash request := by
  cases request with
  | storage statement => cases statement <;> trivial
  | transaction asked => exact fun same => other (admission.symm.trans same)
  | _ => trivial

theorem aside_of_enters (request : Request) (enters : Enters request) : Aside txHash request := by
  cases request with
  | storage statement => cases statement <;> trivial
  | transaction asked => cases enters
  | _ => trivial

theorem aside_reconcile {tracked : Store.Tracked} (other : tracked.txHash ≠ txHash) :
    (reconcile tracked).Asks (Aside txHash) := by
  unfold reconcile
  split
  · trivial
  · exact ⟨other, fun reply => ⟨trivial, fun stamp => asks_storage other⟩⟩

theorem decided_written {read : Nat} {seen : Store} {now : Timestamp}
    (rows : seen.tracked = before.store.tracked) (identified : Identified before.store.tracked)
    (live : record.status.isTerminal = false)
    (found : findTracked before.store.tracked txHash = .ok (some record))
    (reads : after.reads = read + 1)
    (made : after.store = ((Store.Statement.settle txHash (verdict (chain read)).1
      (verdict (chain read)).2 now).run seen).2) :
    Identified after.store.tracked ∧ DecidedBy txHash chain record after read := by
  rw [← rows] at identified found
  obtain ⟨settledRows, settled, wrote⟩ := Store.run_settle_ok ⟨_, found⟩
  have tracked : after.store.tracked = settledRows := by rw [made, wrote]
  have still := Store.settle_open identified found live settled
  constructor
  · rw [tracked]
    exact identified.settle settled
  · rw [← tracked] at still
    exact ⟨reads, _, _, now, decides_verdict (chain read), still⟩

theorem keeps_settle {read : Nat} (now : Timestamp) (identified : Identified state.store.tracked)
    (live : record.status.isTerminal = false) (reads : state.reads = read + 1)
    (first : faultless → read = 0) (fresh : ∀ origin, ¬ former origin)
    (found : findTracked state.store.tracked txHash = .ok (some record)) :
    (storage (.settle txHash (verdict (chain read)).1 (verdict (chain read)).2 now)).Keeps
      (answers faultless txHash chain) (fun _ after => Fated False former txHash chain record after)
      (Leaves faultless former txHash chain record True state) state := by
  rintro reply after ⟨same, seen, rows, told, careful⟩
  have waiting : ¬ Settled txHash state := not_settled live found
  have wrote : after.store = ((Store.Statement.settle txHash (verdict (chain read)).1
        (verdict (chain read)).2 now).run seen).2 →
      Fated faultless former txHash chain record after ∧ Settled txHash after := by
    intro made
    obtain ⟨kept, decided⟩ :=
      decided_written rows identified live found (same.trans reads) made
    exact ⟨⟨kept, .decided read first decided, fun origin known => absurd known (fresh origin)⟩,
      decided.settled⟩
  have outcome : Fated faultless former txHash chain record after ∧
      (Settled txHash after ∨ ∃ fault, reply = .error fault) := by
    rcases told with ran | ⟨failed, kept | ran⟩
    · exact (wrote (congrArg Prod.snd ran)).imp_right .inl
    · rw [← rows] at identified found
      -- Without a fault it cannot fail, as the row can be read.
      have faulty : ¬ faultless := by
        intro noFault
        obtain ⟨fault, rfl⟩ := failed
        obtain ⟨settledRows, _, runs⟩ := Store.run_settle_ok ⟨_, found⟩
        cases (congrArg Prod.fst (careful noFault)).trans (congrArg Prod.fst runs)
      rw [← kept] at identified found
      exact ⟨⟨identified, .waits (fun noFault => absurd noFault faulty) found,
        fun origin known => absurd known (fresh origin)⟩, .inr failed⟩
    · exact (wrote ran).imp_right .inl
  obtain ⟨fated, settled | ⟨fault, rfl⟩⟩ := outcome
  · refine ⟨fated.weaken, ?_⟩
    cases reply <;> exact ⟨fated, fun _ => settled, fun _ _ => settled⟩
  · exact ⟨fated.weaken, fated, fun settled => absurd settled waiting, nofun⟩

theorem keeps_reconcile {tracked : Store.Tracked} (live : record.status.isTerminal = false)
    (fated : Fated faultless former txHash chain record state)
    (found : findTracked state.store.tracked txHash = .ok (some tracked)) :
    (reconcile tracked).Keeps (answers faultless txHash chain)
      (fun _ after => Fated False former txHash chain record after)
      (Leaves faultless former txHash chain record True state) state := by
  have hash := Store.txHash_findTracked found
  cases fated.fate with
  | decided read first decided =>
      obtain ⟨_, _, _, _, decides, there⟩ := id decided
      obtain rfl := Option.some.inj (Except.ok.inj (found.symm.trans there))
      -- A terminal row is left alone, so it keeps its fate.
      rw [reconcile, if_pos decides.terminal]
      exact ⟨fated, id, fun _ _ => decided.settled⟩
  | waits unread there =>
      obtain rfl := Option.some.inj (Except.ok.inj (found.symm.trans there))
      rw [reconcile, if_neg (by simp [live])]
      have fresh : ∀ origin, ¬ former origin :=
        fun origin known => not_settled live found (fated.lasts origin known).1
      rintro reply read ⟨rows, asked⟩
      rw [if_pos hash] at asked
      obtain ⟨rfl, once⟩ := asked
      have readFound : findTracked read.store.tracked txHash = .ok (some tracked) := by
        rw [rows, found]
      have readIdentified : Identified read.store.tracked := by
        rw [rows]
        exact fated.identified
      refine ⟨fated_waiting readIdentified readFound fresh, ?_⟩
      rintro stamp stamped ⟨sameRows, sameReads⟩
      rw [← sameRows] at readFound readIdentified
      refine ⟨fated_waiting readIdentified readFound fresh, ?_⟩
      subst hash
      refine (keeps_settle stamp.time readIdentified live (sameReads.trans once) unread
        fresh readFound).mono fun _ _ left => ?_
      exact ⟨left.fated, fun settled => absurd settled (not_settled live found), left.settles⟩

/-- However an event is handled, the transaction has its fate; an event of its own that is handled
without a failure has settled it. -/
theorem keeps_handleObserved (observed : Observed) (live : record.status.isTerminal = false)
    (fated : Fated faultless former txHash chain record state) :
    (handleObserved settings observed).Keeps (answers faultless txHash chain)
      (fun _ after => Fated False former txHash chain record after)
      (Leaves faultless former txHash chain record (observed.txHash = txHash) state) state := by
  intro reply after answered
  have looks : Aside txHash (.storage (.tracked observed.txHash)) := trivial
  obtain ⟨identified, still⟩ := still_aside looks answered fated.identified
  have kept := fated.still identified still
  refine ⟨kept.weaken, ?_⟩
  rcases reply with fault | found
  · exact ⟨kept, fun settled => settled.still still, nofun⟩
  have there : findTracked after.store.tracked observed.txHash = .ok found := by
    obtain ⟨_, seen, _, told, _⟩ := answered
    have ran := Finality.told_ok told
    have made : after.store = seen := congrArg Prod.snd ran
    have found : Except.ok found = findTracked seen.tracked observed.txHash := congrArg Prod.fst ran
    rw [made, found]
  -- An event of another transaction never gets at the row.
  by_cases own : observed.txHash = txHash
  · rw [own] at there
    obtain ⟨tracked, known⟩ := kept.found
    obtain rfl := Except.ok.inj (there.symm.trans known)
    refine (keeps_reconcile live kept there).mono fun result last left => ?_
    exact ⟨left.fated, fun settled => left.lasts (settled.still still),
      fun done _ => left.settles done trivial⟩
  · have quiet : ∀ {activity : Activity Failure Unit}, activity.Asks (Aside txHash) →
        activity.Keeps (answers faultless txHash chain)
          (fun _ after => Fated False former txHash chain record after)
          (Leaves faultless former txHash chain record (observed.txHash = txHash) state) after := by
      intro activity asks
      refine (keeps_aside asks kept).mono fun result last ended => ?_
      exact ⟨ended.1, fun settled => ended.2 (settled.still still), fun _ here => absurd here own⟩
    cases found with
    | none =>
        exact quiet ((admission_admitObserved settings observed).mono (aside_of_admission own))
    | some tracked =>
        apply quiet
        apply aside_reconcile
        rwa [Store.txHash_findTracked there]

theorem keeps_items (items : List Observed) (live : record.status.isTerminal = false)
    (fated : Fated faultless former txHash chain record state) :
    (forEach (handleObserved settings) items).Keeps (answers faultless txHash chain)
      (fun _ after => Fated False former txHash chain record after)
      (Leaves faultless former txHash chain record
        (∃ observed ∈ items, observed.txHash = txHash) state) state := by
  induction items generalizing state with
  | nil => exact ⟨fated, id, fun _ ⟨_, member, _⟩ => absurd member List.not_mem_nil⟩
  | cons item rest ih =>
      refine (keeps_handleObserved item live fated).bind ?_ ?_
      · intro value middle here
        refine (ih here.fated).mono fun result after left => ?_
        refine ⟨left.fated, fun settled => left.lasts (here.lasts settled), ?_⟩
        rintro done ⟨observed, member, own⟩
        rcases List.mem_cons.mp member with rfl | later
        · exact left.lasts (here.settles rfl own)
        · exact left.settles done ⟨observed, later, own⟩
      · exact fun failure after left => ⟨left.fated, left.lasts, nofun⟩

theorem keeps_handleBatch (batch : Chain.Batch) (live : record.status.isTerminal = false)
    (fated : Fated faultless former txHash chain record state) :
    (handleBatch settings batch).Keeps (answers faultless txHash chain)
      (fun _ after => Fated False former txHash chain record after)
      (Leaves faultless former txHash chain record
        (∃ observed ∈ settings.observed batch, observed.txHash = txHash) state) state := by
  refine (keeps_items (settings.observed batch) live fated).bind ?_ ?_
  · intro value middle here
    have asks : Asks (Aside txHash) (discard (recordBlock settings batch.height batch)) :=
      ((asks_recordBlock settings batch.height batch).mono aside_of_enters).discard
    refine (keeps_aside asks here.fated).mono fun result after ended => ?_
    exact ⟨ended.1, fun settled => ended.2 (here.lasts settled),
      fun _ event => ended.2 (here.settles rfl event)⟩
  · exact fun failure after left => ⟨left.fated, left.lasts, nofun⟩

def Reached (settings : Settings) (txHash : String)
    (deliveries : List (Chain.Batch × Activity Failure Unit)) : Prop :=
  ∃ batch, (batch, .done (.ok ())) ∈ deliveries ∧
    ∃ observed ∈ settings.observed batch, observed.txHash = txHash

theorem fated_run {batch : Chain.Batch} {rest : Activity Failure Unit}
    (live : record.status.isTerminal = false)
    (fated : Fated faultless former txHash chain record before)
    (run : Run (answers faultless txHash chain) (fun _ => False) (handleBatch settings batch)
      before rest after) (ends : faultless → ∃ result, rest = .done result) :
    Fated faultless former txHash chain record after ∧
      ∀ result, rest = .done result → Leaves faultless former txHash chain record
        (∃ observed ∈ settings.observed batch, observed.txHash = txHash) before result after := by
  obtain ⟨still, kept⟩ : Fated False former txHash chain record after ∧ rest.Keeps _ _ _ after :=
    run.keeps (fun _ _ kept => kept) fated.weaken (keeps_handleBatch batch live fated)
      fun _ never => never.elim
  constructor
  · by_cases noFault : faultless
    · obtain ⟨result, rfl⟩ := ends noFault
      exact kept.fated
    · rw [eq_false noFault]
      exact still
  · rintro result rfl
    exact kept

theorem fated_deliveries {start final : Watched}
    {deliveries : List (Chain.Batch × Activity Failure Unit)}
    (live : record.status.isTerminal = false)
    (fated : Fated faultless former txHash chain record start)
    (delivered : Deliveries faultless settings txHash chain start deliveries final) :
    Fated faultless former txHash chain record final ∧
      (Reached settings txHash deliveries → Settled txHash final) := by
  induction delivered with
  | none => exact ⟨fated, fun ⟨_, member, _⟩ => absurd member List.not_mem_nil⟩
  | @more deliveries before after batch rest _ run ends ih =>
      obtain ⟨still, settled⟩ := ih
      obtain ⟨kept, left⟩ := fated_run live still run ends
      refine ⟨kept, ?_⟩
      rintro ⟨other, member, event⟩
      rcases List.mem_append.mp member with old | new
      -- What has been settled by now lasts, even if this delivery is cut short.
      · have now : Settled txHash before := settled ⟨other, old, event⟩
        have known := (fated_run live (still.settled now) run ends).1
        exact (known.lasts before rfl).1
      · cases List.mem_singleton.mp new
        exact (left _ rfl).settles rfl event

/-- A transaction waits for its verdict while any batches are delivered, whole or cut short. Either
it still waits as it was, or the last read of it, answered or failed, has decided its status and
message; so it is once a batch with an event of it has been handled to the end, and it stays so
without another read. If nothing fails but the reads, then the read that decides is the first. -/
theorem first_read_decides {start : Store} {final : Watched}
    {deliveries : List (Chain.Batch × Activity Failure Unit)}
    (identified : Identified start.tracked)
    (waiting : findTracked start.tracked txHash = .ok (some record))
    (live : record.status.isTerminal = false)
    (delivered : Deliveries faultless settings txHash chain ⟨start, 0⟩ deliveries final) :
    (findTracked final.store.tracked txHash = .ok (some record) ∧
        (faultless → final.reads = 0) ∨
      ∃ read, (faultless → read = 0) ∧ DecidedBy txHash chain record final read) ∧
    (Reached settings txHash deliveries →
      ∃ read, (faultless → read = 0) ∧ DecidedBy txHash chain record final read) ∧
    ∀ read, DecidedBy txHash chain record final read → ∀ more last,
      Deliveries faultless settings txHash chain final more last → Still txHash final last := by
  have fated : Fated faultless (fun _ => False) txHash chain record ⟨start, 0⟩ :=
    ⟨identified, .waits (fun _ => rfl) waiting, fun _ => False.elim⟩
  obtain ⟨kept, settled⟩ := fated_deliveries live fated delivered
  refine ⟨?_, ?_, ?_⟩
  · cases kept.fate with
    | waits unread found => exact .inl ⟨found, unread⟩
    | decided read first decided => exact .inr ⟨read, first, decided⟩
  · exact fun reached => kept.decided live (settled reached)
  · intro read decided more last further
    have known := (fated_deliveries live (kept.settled decided.settled) further).1
    exact (known.lasts final rfl).2

def faltering (failures : Nat) (read : Nat) : ChainAnswer :=
  if read < failures then .error .transport else .ok (some ⟨"A1", 1, 0, ""⟩)

def pending : Store := { Store.empty with tracked := [Finality.submitted] }

def pendingRecord : Store.Tracked :=
  ⟨zeroStamp.id, "A1", .migration, .pending, none, zeroStamp.time, zeroStamp.time⟩

def twice : List (Chain.Batch × Activity Failure Unit) :=
  [(Finality.migrated, .done (.ok ())), (Finality.migrated, .done (.ok ()))]

def judged (answer : ChainAnswer) : Store :=
  { pending with tracked := [{ Finality.submitted with
    status := Named.text (verdict answer).1
    message := (verdict answer).2
    updated := zeroStamp.time.stored }] }

theorem pending_identified : Identified pending.tracked :=
  ⟨by simp [pending], by simp [pending, Finality.submitted]⟩

theorem delivered_twice (failures : Nat) (few : failures = 0 ∨ failures = 1) : ∃ final,
    Deliveries True fromGenesis "A1" (faltering failures) ⟨pending, 0⟩ twice final := by
  have begun : Run (answers True "A1" (faltering failures)) (fun _ => False)
      (handleBatch fromGenesis Finality.migrated) ⟨pending, 0⟩ _ ⟨pending, 0⟩ := .begin
  have looked := begun.answer ⟨rfl, pending, rfl, .inl rfl, fun _ => rfl⟩
  have read := looked.answer (show answers True "A1" (faltering failures) (.transaction "A1")
    ⟨pending, 0⟩ (faltering failures 0) ⟨pending, 1⟩ from ⟨rfl, rfl, rfl⟩)
  have stamped := read.answer
    (show answers True "A1" _ .stamp _ zeroStamp ⟨pending, 1⟩ from ⟨rfl, rfl⟩)
  have settled := stamped.answer
    (show answers True "A1" _ _ _ _ ⟨judged (faltering failures 0), 1⟩ from
      ⟨rfl, pending, rfl, .inl rfl, fun _ => rfl⟩)
  have again : Run (answers True "A1" (faltering failures)) (fun _ => False)
      (handleBatch fromGenesis Finality.migrated) ⟨judged (faltering failures 0), 1⟩ _
      ⟨judged (faltering failures 0), 1⟩ := .begin
  have once := Deliveries.none.more settled fun _ => ⟨_, rfl⟩
  rcases few with rfl | rfl
  · exact ⟨_, once.more (again.answer ⟨rfl, judged (faltering 0 0), rfl, .inl rfl, fun _ => rfl⟩)
      fun _ => ⟨_, rfl⟩⟩
  · exact ⟨_, once.more (again.answer ⟨rfl, judged (faltering 1 0), rfl, .inl rfl, fun _ => rfl⟩)
      fun _ => ⟨_, rfl⟩⟩

theorem migrated_event :
    ∃ observed ∈ fromGenesis.observed Finality.migrated, observed.txHash = "A1" := by
  have events : fromGenesis.observed Finality.migrated = [.migration ⟨"A1", 1, "7"⟩] := rfl
  rw [events]
  exact ⟨_, List.mem_singleton_self _, rfl⟩

theorem twice_reached : Reached fromGenesis "A1" twice :=
  ⟨Finality.migrated, List.mem_cons_self, migrated_event⟩

/-- The chain confirms the transaction at the second delivery and is not asked any more. -/
theorem unread_stays_error : ∃ final,
    Deliveries True fromGenesis "A1" (faltering 1) ⟨pending, 0⟩ twice final ∧ final.reads = 1 ∧
    ∃ now, findTracked final.store.tracked "A1" = .ok (some { pendingRecord with
      status := .error, message := some nullResponse, updated := now }) := by
  obtain ⟨final, delivered⟩ := delivered_twice 1 (.inr rfl)
  obtain ⟨_, decided, _⟩ := first_read_decides pending_identified rfl rfl delivered
  obtain ⟨read, first, reads, status, message, now, decides, found⟩ := decided twice_reached
  obtain rfl := first trivial
  have failed : Decides (.error .transport) status message := decides
  cases failed
  exact ⟨final, delivered, reads, now, found⟩

theorem twice_decided (failures : Nat) (few : failures = 0 ∨ failures = 1) : ∃ final found,
    Deliveries True fromGenesis "A1" (faltering failures) ⟨pending, 0⟩ twice final ∧
    findTracked final.store.tracked "A1" = .ok (some found) ∧
    Decides (faltering failures 0) found.status found.message := by
  obtain ⟨final, delivered⟩ := delivered_twice failures few
  have fated : Fated True (fun _ => False) "A1" (faltering failures) pendingRecord ⟨pending, 0⟩ :=
    ⟨pending_identified, .waits (fun _ => rfl) rfl, fun _ => False.elim⟩
  obtain ⟨kept, settled⟩ := fated_deliveries rfl fated delivered
  obtain ⟨read, first, _, status, message, now, decides, found⟩ :=
    kept.decided rfl (settled twice_reached)
  obtain rfl := first trivial
  exact ⟨final, _, delivered, found, decides⟩

/-- It is not so that the failures before the chain's first answer make no difference. -/
theorem failures_are_not_forgiven :
    ¬ ∀ (settings : Settings) (txHash : String) (chain : Nat → ChainAnswer) (failures : Nat)
      (start : Store) (record found expected : Store.Tracked) (final clean : Watched)
      (deliveries : List (Chain.Batch × Activity Failure Unit)),
      Identified start.tracked → findTracked start.tracked txHash = .ok (some record) →
      record.status.isTerminal = false →
      (∀ delivery ∈ deliveries, ∃ observed ∈ settings.observed delivery.1,
        observed.txHash = txHash) → failures < deliveries.length →
      (∀ read < failures, ∃ failure, chain read = .error failure) →
      (∃ answer, chain failures = .ok answer) →
      Deliveries True settings txHash chain ⟨start, 0⟩ deliveries final →
      Deliveries True settings txHash (fun read => chain (failures + read)) ⟨start, 0⟩
        deliveries clean →
      findTracked final.store.tracked txHash = .ok (some found) →
      findTracked clean.store.tracked txHash = .ok (some expected) →
      found.status = expected.status ∧ found.message = expected.message := by
  intro forgiven
  obtain ⟨final, found, delivered, there, failed⟩ := twice_decided 1 (.inr rfl)
  obtain ⟨clean, expected, answered, here, confirmed⟩ := twice_decided 0 (.inl rfl)
  -- Without its failures the first chain is the second one.
  have onward : (fun read => faltering 1 (1 + read)) = faltering 0 := by
    funext read
    simp [faltering]
  rw [← onward] at answered
  have events : ∀ delivery ∈ twice, ∃ observed ∈ fromGenesis.observed delivery.1,
      observed.txHash = "A1" := by
    intro delivery member
    have same : delivery.1 = Finality.migrated := by
      simp only [twice, List.mem_cons, List.not_mem_nil, or_false, or_self] at member
      rw [member]
    rw [same]
    exact migrated_event
  obtain ⟨status, _⟩ := forgiven fromGenesis "A1" (faltering 1) 1 pending pendingRecord found
    expected final clean twice pending_identified rfl rfl events (by decide)
    (fun read early => ⟨.transport, if_pos early⟩) ⟨_, rfl⟩ delivered answered there here
  have unread : Decides (.error .transport) found.status found.message := failed
  have answer : Decides (.ok (some ⟨"A1", 1, 0, ""⟩)) expected.status expected.message := confirmed
  rw [unread.unread_status, answer.confirmed_status rfl] at status
  cases status

end Settlement.FirstRead
