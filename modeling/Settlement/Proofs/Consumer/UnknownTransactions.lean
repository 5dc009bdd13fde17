import Settlement.Chain.Reader
import Settlement.Proofs.Consumer.Delivery
import Settlement.Proofs.Consumer.Finality

/-!
A candidate for admission about which the node answers with an error of its own. Whether the
transaction counts as unknown is decided by a phrase in the texts of that error, whatever its
code is. Nothing is recorded for the candidate in any case. Without the phrase the batch is not
passed; with it the candidate is, and the cursor moves on over it.
-/

namespace Settlement

namespace Chain

open Reader

theorem Failure.occurs_iff_infix (word text : List Char) :
    occurs word text = true ↔ word <:+: text := by
  induction text with
  | nil => simp [occurs, List.infix_nil]
  | cons letter rest ih =>
      rw [occurs, Bool.or_eq_true, List.isPrefixOf_iff_prefix, ih, List.infix_cons_iff]

structure Refusal where
  code : Int
  message : String
  data : Option String

namespace Refusal

variable (refusal : Refusal)

def answer : Rpc.Answer := .error refusal.code refusal.message refusal.data

def failure : Failure := .ofError refusal.code refusal.message refusal.data

/-- The phrase stands somewhere in the message or in the data. -/
def SaysNotFound : Prop :=
  "not found".toList <:+: refusal.message.toList ∨
    "not found".toList <:+: (Failure.dataText refusal.data).toList

theorem isNotFound_iff : refusal.failure.isNotFound = true ↔ refusal.SaysNotFound := by
  rw [failure, Failure.ofError, Failure.isNotFound, Bool.or_eq_true, Failure.saysNotFound,
    Failure.saysNotFound, Failure.occurs_iff_infix, Failure.occurs_iff_infix, or_comm]
  rfl

theorem fetchTransaction_refused {node : Rpc.Call → Rpc.Answer} {txHash : String}
    {call : Rpc.Call} (valid : transactionCall txHash = .ok call)
    (refused : node call = refusal.answer) :
    (refusal.SaysNotFound → fetchTransaction node txHash = .ok none) ∧
      (¬ refusal.SaysNotFound → fetchTransaction node txHash = .error refusal.failure) := by
  have asked : fetchTransaction node txHash =
      if refusal.failure.isNotFound then .ok none else .error refusal.failure := by
    rw [fetchTransaction, valid]
    change transaction (node call) = _
    rw [refused]
    rfl
  rw [asked, ← isNotFound_iff]
  constructor
  · intro said
    rw [if_pos said]
  · intro unsaid
    rw [if_neg unsaid]

end Refusal

end Chain

namespace Consumer

open Activity
open Chain (Refusal)
open Store (findTracked findMigration findDeposit TrackedRow MigrationRow DepositRow)

/-- The node refuses every question for the transaction in one of the given ways. All else is
answered anyhow, and a storage call that fails may have taken effect. -/
def refusing (call : Chain.Rpc.Call) (txHash : String) (refusals : Refusal → Prop) :
    Answering Store
  | .transaction other, before, reply, after => after = before ∧
      (other = txHash → ∃ node refusal, refusals refusal ∧ node call = refusal.answer ∧
        reply = Chain.Reader.fetchTransaction node txHash)
  | request, before, reply, after => Finality.told request before reply after

theorem told_of_refusing {call : Chain.Rpc.Call} {txHash : String} {refusals : Refusal → Prop}
    {request : Request} {before after : Store} {reply : request.Reply}
    (answered : refusing call txHash refusals request before reply after) :
    Finality.told request before reply after := by
  cases request with
  | transaction other => exact answered.1
  | _ => exact answered

def Spares (txHash : String) : Request → Prop
  | .storage (.addMigration record) => record.txHash ≠ txHash
  | .storage (.addDeposit record) => record.txHash ≠ txHash
  | .storage (.addCursor ..) | .storage (.moveCursor ..) => False
  | _ => True

theorem spares_of_serves {settings : Settings} {observed : Observed} {txHash : String}
    (other : observed.txHash ≠ txHash) (request : Request)
    (serves : Serves settings observed request) : Spares txHash request := by
  rcases serves with rfl | reconciles | admission
  · trivial
  · cases request with
    | storage statement => cases statement <;> trivial
    | _ => trivial
  · cases request with
    | storage statement =>
        cases statement with
        | addMigration record =>
            obtain ⟨migration, rfl, same⟩ := admission
            exact fun hash => other (same.symm.trans hash)
        | addDeposit record =>
            obtain ⟨transfer, rfl, _, stamp, height, _, rfl⟩ := admission
            exact other
        | addCursor | moveCursor => cases admission
        | _ => trivial
    | _ => trivial

theorem lookup_none_iff {row value : Type} {read : row → Except Store.Fault value}
    {key : row → String} {rows : List row} {wanted : String} :
    Store.readOptional read (rows.find? fun row => key row = wanted) = .ok none ↔
      wanted ∉ rows.map key := by
  constructor
  · intro absent present
    cases Store.isSome_of_mem absent present
  · intro absent
    have none : rows.find? (fun row => key row = wanted) = none := by
      apply List.find?_eq_none.mpr
      intro row member same
      rw [decide_eq_true_eq] at same
      exact absent (List.mem_map.mpr ⟨row, member, same⟩)
    rw [none]
    rfl

/-- The event has no row, and the cursor stands where it stood. -/
structure Unpassed (settings : Settings) (observed : Observed) (cell : Option Store.Cell)
    (store : Store) : Prop where
  missing : Missing settings observed store
  cursor : store.cursorCell settings.stream = cell

section Refused

variable {settings : Settings} {observed : Observed} {cell : Option Store.Cell}
  {call : Chain.Rpc.Call} {refusals : Refusal → Prop}

theorem tracked_hashes_run (statement : Store.Statement) (store : Store) :
    (statement.run store).2.tracked.map TrackedRow.txHash =
      store.tracked.map TrackedRow.txHash := by
  by_cases plain : Finality.Plain (.storage statement)
  · rw [Finality.run_tracked plain]
  · cases statement with
    | settle txHash status message now => exact (Store.run_settle store _ _ _ _).1.tracked
    | _ => exact absurd trivial plain

theorem migrations_spared {txHash : String} {statement : Store.Statement} {store : Store}
    (spares : Spares txHash (.storage statement))
    (absent : txHash ∉ store.migrations.map MigrationRow.txHash) :
    txHash ∉ (statement.run store).2.migrations.map MigrationRow.txHash := by
  cases statement with
  | addMigration record =>
      rcases Store.run_insertMigration record store with ⟨_, ran⟩ | ⟨_, ran⟩
      · rwa [ran]
      · rw [ran, List.map_append, List.mem_append, not_or]
        exact ⟨absent, fun present => spares (List.mem_singleton.mp present).symm⟩
  | settle | addDeposit | append =>
      simp only [Store.Statement.run]
      split <;> exact absent
  | _ => exact absent

theorem deposits_spared {txHash : String} {statement : Store.Statement} {store : Store}
    (spares : Spares txHash (.storage statement))
    (absent : txHash ∉ store.deposits.map DepositRow.txHash) :
    txHash ∉ (statement.run store).2.deposits.map DepositRow.txHash := by
  rcases Store.deposits_grow statement store with same | ⟨record, rfl, _, grown⟩
  · rwa [same, Store.revise_hashes]
  · rw [grown, List.map_append, Store.revise_hashes, List.mem_append, not_or]
    exact ⟨absent, fun present => spares (List.mem_singleton.mp present).symm⟩

theorem missing_run {statement : Store.Statement} {store : Store}
    (spares : Spares observed.txHash (.storage statement))
    (missing : Missing settings observed store) :
    Missing settings observed (statement.run store).2 := by
  obtain ⟨untracked, absent⟩ := missing
  refine ⟨lookup_none_iff.mpr ?_, ?_⟩
  · rw [tracked_hashes_run]
    exact lookup_none_iff.mp untracked
  · cases observed with
    | migration migration =>
        exact lookup_none_iff.mpr (migrations_spared spares (lookup_none_iff.mp absent))
    | transfer transfer =>
        exact ⟨absent.1, lookup_none_iff.mpr
          (deposits_spared spares (lookup_none_iff.mp absent.2))⟩
    | other txHash => exact absent

theorem unpassed_answered {request : Request} {before after : Store} {reply : request.Reply}
    (spares : Spares observed.txHash request)
    (answered : refusing call observed.txHash refusals request before reply after)
    (unpassed : Unpassed settings observed cell before) :
    Unpassed settings observed cell after := by
  rcases Finality.told_store (told_of_refusing answered) with rfl | ⟨statement, rfl, rfl⟩
  · exact unpassed
  · have writes : statement.writesCursor = false := by
      cases statement <;> first | rfl | cases spares
    refine ⟨missing_run spares unpassed.missing, ?_⟩
    rw [Store.cursorCell_run writes]
    exact unpassed.cursor

theorem keeps_spared {ε α : Type} {activity : Activity ε α} {state : Store}
    (asks : activity.Asks (Spares observed.txHash))
    (unpassed : Unpassed settings observed cell state) :
    activity.Keeps (refusing call observed.txHash refusals)
      (fun _ after => Unpassed settings observed cell after)
      (fun _ after => Unpassed settings observed cell after) state := by
  induction activity generalizing state with
  | done result => exact unpassed
  | ask request next ih =>
      intro reply after answered
      have still := unpassed_answered asks.1 answered unpassed
      exact ⟨still, ih reply (asks.2 reply) still⟩

/-- How the handling of an event of the transaction may end. -/
def RefusalOutcome (refusals : Refusal → Prop) (txHash : String) : Except Failure Unit → Prop
  | .ok _ => ∃ refusal, refusals refusal ∧ refusal.SaysNotFound
  | .error failure => (∃ fault, failure = ofStorage fault) ∨
      ∃ refusal, refusals refusal ∧ ¬ refusal.SaysNotFound ∧
        failure = (Failure.ofCause (.chain refusal.failure)).within
          ("failed to fetch tx " ++ txHash)

def Tells {value : Type} (held : Except Store.Fault value) : Except Failure value → Prop
  | .ok found => held = .ok found
  | .error failure => ∃ fault, failure = ofStorage fault

variable {allowed : Store → Store → Prop} {txHash : String} {state : Store}
  (valid : Chain.Reader.transactionCall txHash = .ok call) (stay : allowed state state)

include valid stay

theorem keeps_unconfirmed {insert : Activity Failure Unit} :
    Keeps (refusing call txHash refusals) allowed
      (fun result after => after = state ∧ RefusalOutcome refusals txHash result) (do
        if ← isConfirmed txHash then insert) state := by
  rintro reply after ⟨rfl, refused⟩
  refine ⟨stay, ?_⟩
  obtain ⟨node, refusal, among, answers, rfl⟩ := refused rfl
  obtain ⟨said, unsaid⟩ := refusal.fetchTransaction_refused valid answers
  by_cases phrase : refusal.SaysNotFound
  · rw [said phrase]
    exact ⟨rfl, refusal, among, phrase⟩
  · rw [unsaid phrase]
    exact ⟨rfl, .inr ⟨refusal, among, phrase, rfl⟩⟩

omit valid in
theorem keeps_lookup (statement : Store.Statement) (read : statement.isRead = true) :
    (storage statement).Keeps (refusing call txHash refusals) allowed
      (fun result after => after = state ∧ Tells (statement.run state).1 result) state := by
  refine (keeps_storage _).mpr fun reply after answered => ?_
  rcases answered with ran | ⟨⟨fault, rfl⟩, effect⟩
  · obtain ⟨told, rfl⟩ := Prod.ext_iff.mp ran
    dsimp only at told
    rw [Store.Statement.run_read read]
    refine ⟨stay, rfl, ?_⟩
    cases reply with
    | ok value => exact told.symm
    | error fault => exact ⟨fault, rfl⟩
  · have same : after = state := by
      rcases effect with same | ran
      · exact same
      · rw [ran, Store.Statement.run_read read]
    rw [same]
    exact ⟨stay, rfl, fault, rfl⟩

theorem keeps_candidate {value : Type} {lookup : Activity Failure (Option value)}
    {looked : Except Store.Fault (Option value)} {insert : Activity Failure Unit}
    (looks : lookup.Keeps (refusing call txHash refusals) allowed
      (fun result after => after = state ∧ Tells looked result) state) :
    Keeps (refusing call txHash refusals) allowed
      (fun result after => after = state ∧
        (looked = .ok none → RefusalOutcome refusals txHash result)) (do
        if (← lookup).isNone then
          if ← isConfirmed txHash then insert) state := by
  refine looks.bind ?_ ?_
  · rintro found _ ⟨rfl, told⟩
    cases found with
    | none =>
        exact (keeps_unconfirmed valid stay).mono fun _ _ ended => ⟨ended.1, fun _ => ended.2⟩
    | some record =>
        refine ⟨rfl, fun absent => ?_⟩
        cases absent.symm.trans told
  · rintro failure _ ⟨rfl, failed⟩
    exact ⟨rfl, fun _ => .inl failed⟩

theorem keeps_refused (other : Observed)
    (same : other.txHash = txHash) (untracked : findTracked state.tracked txHash = .ok none) :
    (handleObserved settings other).Keeps (refusing call txHash refusals) allowed
      (fun result after => after = state ∧
        (Missing settings other state → RefusalOutcome refusals txHash result)) state := by
  subst same
  refine (keeps_lookup stay (.tracked other.txHash) rfl).bind ?_ ?_
  · rintro found _ ⟨rfl, looked⟩
    have looked : findTracked _ _ = .ok found := looked
    obtain rfl := Except.ok.inj (looked.symm.trans untracked)
    cases other with
    | migration migration =>
        refine (keeps_candidate valid stay
          (keeps_lookup stay (.migration migration.txHash) rfl)).mono ?_
        exact fun _ _ ended => ⟨ended.1, fun missing => ended.2 missing.2⟩
    | transfer transfer =>
        simp only [admitObserved]
        by_cases bound : isBankBound settings transfer = true
        · rw [if_pos bound]
          refine (keeps_candidate valid stay
            (keeps_lookup stay (.deposit transfer.txHash) rfl)).mono ?_
          exact fun _ _ ended => ⟨ended.1, fun missing => ended.2 missing.2.2⟩
        · rw [if_neg bound]
          exact ⟨rfl, fun missing => absurd missing.2.1 bound⟩
    | other txHash => exact ⟨rfl, fun missing => missing.2.elim⟩
  · rintro failure _ ⟨rfl, failed⟩
    exact ⟨rfl, fun _ => .inl failed⟩

end Refused

section Batches

variable {settings : Settings} {observed : Observed} {cell : Option Store.Cell}
  {call : Chain.Rpc.Call} {refusals : Refusal → Prop} {batch : Chain.Batch} {state : Store}
  (candidate : observed ∈ settings.observed batch)
  (valid : Chain.Reader.transactionCall observed.txHash = .ok call)
  (unpassed : Unpassed settings observed cell state)

include valid unpassed

theorem keeps_refused_item (item : Observed) :
    (handleObserved settings item).Keeps (refusing call observed.txHash refusals)
      (fun _ after => Unpassed settings observed cell after)
      (fun result after => Unpassed settings observed cell after ∧ (result = .ok () →
        observed = item → ∃ refusal, refusals refusal ∧ refusal.SaysNotFound)) state := by
  by_cases same : item.txHash = observed.txHash
  · refine (keeps_refused valid unpassed item same unpassed.missing.1).mono ?_
    rintro result _ ⟨rfl, outcome⟩
    refine ⟨unpassed, ?_⟩
    rintro rfl rfl
    exact outcome unpassed.missing
  -- Another transaction's event makes rows under the hash of that one only.
  · have asks := (serves_handleObserved settings item).mono (spares_of_serves same)
    refine (keeps_spared asks unpassed).mono fun result after kept => ⟨kept, fun _ here => ?_⟩
    rw [here] at same
    exact absurd rfl same

theorem keeps_refused_items (items : List Observed) :
    (forEach (handleObserved settings) items).Keeps (refusing call observed.txHash refusals)
      (fun _ after => Unpassed settings observed cell after)
      (fun result _ => result = .ok () → observed ∈ items →
        ∃ refusal, refusals refusal ∧ refusal.SaysNotFound) state := by
  induction items generalizing state with
  | nil => exact fun _ member => absurd member List.not_mem_nil
  | cons item rest ih =>
      refine (keeps_refused_item valid unpassed item).bind ?_ ?_
      · rintro value after ⟨still, here⟩
        refine (ih still).mono fun result _ ended done member => ?_
        rcases List.mem_cons.mp member with same | later
        · exact here rfl same
        · exact ended done later
      · exact fun _ _ _ => nofun

include candidate

theorem keeps_refused_events :
    (handleEvents settings batch (batch.transfers settings.contract)).Keeps
      (refusing call observed.txHash refusals)
      (fun _ after => Unpassed settings observed cell after)
      (fun result _ => result = .ok () →
        ∃ refusal, refusals refusal ∧ refusal.SaysNotFound) state :=
  (keeps_refused_items valid unpassed (settings.observed batch)).mono
    fun _ _ ended done => ended done candidate

theorem keeps_refused_batch (unsaid : ∀ refusal, refusals refusal → ¬ refusal.SaysNotFound)
    (later : List (Except Chain.Failure Chain.Batch)) :
    (forEach (consumeItem settings) (.ok batch :: later)).Keeps
      (refusing call observed.txHash refusals)
      (fun _ after => Unpassed settings observed cell after)
      (fun result _ => result ≠ .ok ()) state := by
  -- The batch fails at the event, so the cursor stays and none of the later items is begun.
  have handled : (handleBatch settings batch).Keeps (refusing call observed.txHash refusals)
      (fun _ after => Unpassed settings observed cell after)
      (fun result _ => ∃ failure, result = .error failure) state := by
    refine (keeps_refused_events candidate valid unpassed).bind ?_ ?_
    · intro value after said
      obtain ⟨refusal, among, phrase⟩ := said rfl
      exact absurd phrase (unsaid refusal among)
    · exact fun failure _ _ => ⟨failure, rfl⟩
  have consumed : (consumeItem settings (.ok batch)).Keeps
      (refusing call observed.txHash refusals)
      (fun _ after => Unpassed settings observed cell after)
      (fun result _ => ∃ failure, result = .error failure) state := by
    have named : ((handleBatch settings batch).mapFailure (Failure.within
        ("failed to handle block " ++ toString batch.height))).Keeps
        (refusing call observed.txHash refusals)
        (fun _ after => Unpassed settings observed cell after)
        (fun result _ => ∃ failure, result = .error failure) state := by
      refine (keeps_mapFailure _ _ _).mpr (handled.mono ?_)
      rintro _ _ ⟨failure, rfl⟩
      exact ⟨_, rfl⟩
    refine named.bind ?_ ?_
    · rintro value _ ⟨failure, ended⟩
      cases ended
    · exact fun failure _ _ => ⟨failure, rfl⟩
  refine consumed.bind ?_ ?_
  · rintro value _ ⟨failure, ended⟩
    cases ended
  · rintro failure _ _ ⟨⟩

theorem refused_events_run {rest : Activity Failure Unit} {after : Store}
    (run : Run (refusing call observed.txHash refusals) (fun _ => False)
      (handleEvents settings batch (batch.transfers settings.contract)) state rest after) :
    Missing settings observed after ∧
      (rest = .done (.ok ()) → ∃ refusal, refusals refusal ∧ refusal.SaysNotFound) := by
  obtain ⟨still, kept⟩ : Unpassed settings observed cell after ∧ rest.Keeps _ _ _ after :=
    run.keeps (fun _ _ after => after) unpassed
      (keeps_refused_events candidate valid unpassed) fun _ never => never.elim
  refine ⟨still.missing, ?_⟩
  rintro rfl
  exact kept rfl

theorem refused_batch_run {rest : Activity Failure Unit} {after : Store}
    (unsaid : ∀ refusal, refusals refusal → ¬ refusal.SaysNotFound)
    (later : List (Except Chain.Failure Chain.Batch))
    (run : Run (refusing call observed.txHash refusals) (fun _ => False)
      (forEach (consumeItem settings) (.ok batch :: later)) state rest after) :
    Unpassed settings observed cell after ∧ rest ≠ .done (.ok ()) := by
  obtain ⟨still, kept⟩ : Unpassed settings observed cell after ∧ rest.Keeps _ _ _ after :=
    run.keeps (fun _ _ after => after) unpassed
      (keeps_refused_batch candidate valid unpassed unsaid later) fun _ never => never.elim
  refine ⟨still, ?_⟩
  rintro rfl
  exact kept rfl

end Batches

theorem said_event_run {settings : Settings} {observed : Observed} {call : Chain.Rpc.Call}
    {refusals : Refusal → Prop} {start state : Store} {rest : Activity Failure Unit}
    (valid : Chain.Reader.transactionCall observed.txHash = .ok call)
    (missing : Missing settings observed start)
    (said : ∀ refusal, refusals refusal → refusal.SaysNotFound)
    (run : Run (refusing call observed.txHash refusals) (fun _ => False)
      (handleObserved settings observed) start rest state) :
    state = start ∧ ∀ result, rest = .done result →
      result = .ok () ∨ ∃ fault, result = .error (ofStorage fault) := by
  have handles : (handleObserved settings observed).Keeps
      (refusing call observed.txHash refusals) (fun _ after => after = start)
      (fun result after => after = start ∧ RefusalOutcome refusals observed.txHash result)
      start := by
    refine (keeps_refused valid ?_ observed rfl missing.1).mono ?_
    · exact rfl
    · exact fun _ _ ended => ⟨ended.1, ended.2 missing⟩
  obtain ⟨same, kept⟩ : start = state ∧ rest.Keeps _ _ _ state :=
    run.keeps (fun _ _ same => same.symm) rfl handles fun _ never => never.elim
  refine ⟨same.symm, ?_⟩
  rintro result rfl
  have outcome := kept.2
  cases result with
  | ok value => exact .inl rfl
  | error failure =>
      rcases outcome with ⟨fault, rfl⟩ | ⟨refusal, among, unsaid, _⟩
      · exact .inr ⟨fault, rfl⟩
      · exact absurd (said refusal among) unsaid

/-- The node refuses the question for a candidate. The transaction counts as unknown exactly if
the phrase is in the texts of the error, whatever its code is. Nothing is ever recorded for it.
Only if the phrase was said can the events of the batch be handled or the cursor move; and if it
always is, the event is done with nothing changed unless the storage fails. -/
theorem refused_candidate_is_passed_as_not_found {settings : Settings} {observed : Observed}
    {batch : Chain.Batch} {call : Chain.Rpc.Call} {refusals : Refusal → Prop} {start : Store}
    (candidate : observed ∈ settings.observed batch)
    (valid : Chain.Reader.transactionCall observed.txHash = .ok call)
    (missing : Missing settings observed start) :
    (∀ node refusal, node call = Refusal.answer refusal →
      (refusal.SaysNotFound →
        Chain.Reader.fetchTransaction node observed.txHash = .ok none) ∧
      (¬ refusal.SaysNotFound →
        Chain.Reader.fetchTransaction node observed.txHash = .error refusal.failure)) ∧
    (∀ rest state, Run (refusing call observed.txHash refusals) (fun _ => False)
        (handleEvents settings batch (batch.transfers settings.contract)) start rest state →
      Missing settings observed state ∧
      (rest = .done (.ok ()) → ∃ refusal, refusals refusal ∧ refusal.SaysNotFound)) ∧
    (∀ later rest state, Run (refusing call observed.txHash refusals) (fun _ => False)
        (forEach (consumeItem settings) (.ok batch :: later)) start rest state →
      (∃ refusal, refusals refusal ∧ refusal.SaysNotFound) ∨
      Missing settings observed state ∧ rest ≠ .done (.ok ()) ∧
        state.cursorCell settings.stream = start.cursorCell settings.stream) ∧
    ((∀ refusal, refusals refusal → refusal.SaysNotFound) →
      ∀ rest state, Run (refusing call observed.txHash refusals) (fun _ => False)
        (handleObserved settings observed) start rest state →
      state = start ∧ ∀ result, rest = .done result →
        result = .ok () ∨ ∃ fault, result = .error (ofStorage fault)) := by
  have unpassed : Unpassed settings observed (start.cursorCell settings.stream) start :=
    ⟨missing, rfl⟩
  refine ⟨?_, ?_, ?_, ?_⟩
  · intro node refusal answers
    exact refusal.fetchTransaction_refused valid answers
  · intro rest state run
    exact refused_events_run candidate valid unpassed run
  · intro later rest state run
    by_cases said : ∃ refusal, refusals refusal ∧ refusal.SaysNotFound
    · exact .inl said
    · have unsaid : ∀ refusal, refusals refusal → ¬ refusal.SaysNotFound :=
        fun refusal among phrase => said ⟨refusal, among, phrase⟩
      obtain ⟨still, unfinished⟩ :=
        refused_batch_run candidate valid unpassed unsaid later run
      exact .inr ⟨still.missing, unfinished, still.cursor⟩
  · intro said rest state run
    exact said_event_run valid missing said run

def methodMissing : Refusal := ⟨-32601, "Method not found", none⟩

def atGenesis : Store :=
  { Store.empty with
    cursors := [Store.Cursor.row ⟨zeroStamp.id, 0, zeroStamp.time, zeroStamp.time⟩] }

theorem missing_method_passes_migration : ∃ call state,
    Chain.Reader.transactionCall "A1" = .ok call ∧
    Run (refusing call "A1" (· = methodMissing)) (fun _ => False)
      (forEach (consumeItem fromGenesis) [.ok Finality.migrated]) atGenesis (.done (.ok ())) state ∧
    state.cursorCell zeroStamp.id = some (.number 1) ∧ state.migrations = [] ∧
    ∃ refusal, refusal = methodMissing ∧ refusal.SaysNotFound := by
  have events : fromGenesis.observed Finality.migrated = [.migration ⟨"A1", 1, "7"⟩] := rfl
  have candidate : Observed.migration ⟨"A1", 1, "7"⟩ ∈ fromGenesis.observed Finality.migrated := by
    rw [events]
    exact List.mem_singleton_self _
  have valid : ∃ call, Chain.Reader.transactionCall "A1" = .ok call := ⟨_, rfl⟩
  obtain ⟨call, valid⟩ := valid
  have missing : Missing fromGenesis (.migration ⟨"A1", 1, "7"⟩) atGenesis := ⟨rfl, rfl⟩
  have begun : Run (refusing call "A1" (· = methodMissing)) (fun _ => False)
      (forEach (consumeItem fromGenesis) [.ok Finality.migrated]) atGenesis _ atGenesis := .begin
  have untracked := begun.answer (.inl rfl)
  have absent := untracked.answer (.inl rfl)
  have refused : refusing call "A1" (· = methodMissing) (.transaction "A1") atGenesis (.ok none)
      atGenesis := by
    refine ⟨rfl, fun _ => ⟨fun _ => methodMissing.answer, methodMissing, rfl, rfl, ?_⟩⟩
    rw [Chain.Reader.fetchTransaction, valid]
    rfl
  have unknown := absent.answer refused
  have stamped := unknown.answer (show refusing call "A1" _ .stamp _ zeroStamp _ from rfl)
  have moved := stamped.answer (.inl rfl)
  obtain ⟨_, _, batch, _⟩ := refused_candidate_is_passed_as_not_found candidate valid missing
  refine ⟨call, _, valid, moved, rfl, rfl, ?_⟩
  rcases batch [] _ _ moved with said | ⟨_, unfinished, _⟩
  · exact said
  · exact absurd rfl unfinished

end Consumer

end Settlement
