import Settlement.Proofs.Consumer.Gains
import Settlement.Proofs.DepositQueue.Leases

/-!
What one consumer makes of the events of a batch when nobody else writes. The chain's reply
depends on the hash alone. Every tracked row that is open and has an event goes to the chain's
verdict, every untracked hash that the chain confirms gets the row of its first migration and of
its first bank-bound transfer, and all else stays. A failure comes from a storage call, from the
chain's reply to an admission or from a height that does not fit, and leaves nothing but rows
that a success would have left as well.
-/

namespace Settlement

def Chain.Batch.hashes (batch : Chain.Batch) (contract : String) : List String :=
  (batch.mints contract).map (·.txHash) ++ (batch.burns contract).map (·.txHash) ++
    (batch.redemptions contract).map (·.txHash) ++ (batch.transfers contract).map (·.txHash) ++
    (batch.migrations contract).map (·.txHash)

namespace Consumer

open Activity
open Store (Lasts Identified GrownBy Unique TrackedRow MigrationRow DepositRow findTracked)

abbrev Oracle := String → Except Chain.Failure (Option Chain.TxResponse)

/-- The chain replies by the hash alone. Where it fails, the history has no transaction. -/
structure Faithful (oracle : Oracle) (history : History) (answers : Answering Store) :
    Prop where
  within : ∀ {request before reply after}, answers request before reply after →
    history.answers request before reply after
  transaction : ∀ {txHash before reply after},
    answers (.transaction txHash) before reply after → reply = oracle txHash
  agrees : ∀ txHash, oracle txHash = .ok (history.transaction txHash) ∨
    history.transaction txHash = none ∧ ∃ failure, oracle txHash = .error failure

section Reference

variable (settings : Settings) (oracle : Oracle) (history : History) (answers : Answering Store)
  (batch : Chain.Batch) (start : Store)

/-- It is the first migration of a confirmed transaction that is not tracked and has no row. -/
def NewMigration (migration : Chain.Migration) : Prop :=
  migration.txHash ∉ start.tracked.map TrackedRow.txHash ∧
  migration.txHash ∉ start.migrations.map MigrationRow.txHash ∧
  history.confirms migration.txHash = true ∧
  (batch.migrations settings.contract).find? (fun other => other.txHash = migration.txHash) =
    some migration

/-- It is the first bank-bound transfer of a confirmed transaction that is not tracked and has
no row. -/
def NewTransfer (transfer : Chain.Transfer) : Prop :=
  transfer.txHash ∉ start.tracked.map TrackedRow.txHash ∧
  transfer.txHash ∉ start.deposits.map DepositRow.txHash ∧
  history.confirms transfer.txHash = true ∧
  (batch.transfers settings.contract).find?
    (fun other => isBankBound settings other && other.txHash = transfer.txHash) = some transfer

/-- The row is open, and the batch has an event of its transaction. -/
def Concerns (row : TrackedRow) : Prop :=
  row.isOpen = true ∧ row.txHash ∈ batch.hashes settings.contract

/-- All changes are in the reference, and if the batch is finished they are all there. -/
structure Follows (finished : Prop) (final : Store) : Prop where
  others : final = { start with
    tracked := final.tracked, migrations := final.migrations, deposits := final.deposits }
  tracked : ∃ change, final.tracked = start.tracked.map change ∧ ∀ row ∈ start.tracked,
    (change row = row ∧ (finished → ¬ Concerns settings batch row)) ∨
    Concerns settings batch row ∧ ∃ now : Timestamp, change row = { row with
      status := Named.text (verdict (oracle row.txHash)).1
      message := (verdict (oracle row.txHash)).2
      updated := now.stored }
  migrations : ∃ added, final.migrations = start.migrations ++ added ∧
    (added.map MigrationRow.txHash).Nodup ∧
    (∀ row ∈ added, ∃ migration, NewMigration settings history batch start migration ∧
      row.core = migrationRow migration) ∧
    (finished → ∀ migration, NewMigration settings history batch start migration →
      migrationRow migration ∈ added.map MigrationRow.core)
  deposits : ∃ added, final.deposits = start.deposits ++ added ∧
    (added.map DepositRow.txHash).Nodup ∧
    (∀ row ∈ added, ∃ transfer height, NewTransfer settings history batch start transfer ∧
      Height.stored? transfer.height = some height ∧ row.core = depositRow transfer height) ∧
    (finished → ∀ transfer, NewTransfer settings history batch start transfer →
      ∃ height, Height.stored? transfer.height = some height ∧
        depositRow transfer height ∈ added.map DepositRow.core)

def Admissible (txHash : String) : Prop :=
  txHash ∉ start.tracked.map TrackedRow.txHash ∧
  ((∃ migration ∈ batch.migrations settings.contract, migration.txHash = txHash ∧
      txHash ∉ start.migrations.map MigrationRow.txHash) ∨
    ∃ transfer ∈ batch.transfers settings.contract, isBankBound settings transfer = true ∧
      transfer.txHash = txHash ∧ txHash ∉ start.deposits.map DepositRow.txHash)

/-- Why the handling of the events may fail. -/
inductive Stops : Failure → Prop where
  | storage {statement : Store.Statement} {before after : Store} {fault : Store.Fault}
      (failed : answers (.storage statement) before (.error fault) after) : Stops (ofStorage fault)
  | chain {txHash : String} {failure : Chain.Failure}
      (admissible : Admissible settings batch start txHash)
      (failed : oracle txHash = .error failure) :
      Stops ((Failure.ofCause (.chain failure)).within ("failed to fetch tx " ++ txHash))
  | height {transfer : Chain.Transfer} (new : NewTransfer settings history batch start transfer)
      (misfit : Height.stored? transfer.height = none) : Stops (.ofCause .heightRange)

inductive Halts (observed : Observed) (met : Store) : Failure → Prop where
  | storage {statement : Store.Statement} {before after : Store} {fault : Store.Fault}
      (failed : answers (.storage statement) before (.error fault) after) :
      Halts observed met (ofStorage fault)
  | chain {failure : Chain.Failure} (missing : Missing settings observed met)
      (failed : oracle observed.txHash = .error failure) :
      Halts observed met
        ((Failure.ofCause (.chain failure)).within ("failed to fetch tx " ++ observed.txHash))
  | height {transfer : Chain.Transfer} (kind : observed = .transfer transfer)
      (missing : Missing settings observed met)
      (confirmed : history.confirms observed.txHash = true)
      (misfit : Height.stored? transfer.height = none) :
      Halts observed met (.ofCause .heightRange)

end Reference

variable {settings : Settings} {oracle : Oracle} {history : History} {answers : Answering Store}
  {batch : Chain.Batch} {start final : Store}

section Faithful

variable (faithful : Faithful oracle history answers)

include faithful

theorem Faithful.manners : Manners history answers True where
  within := faithful.within
  storage _ := .inl trivial
  transaction _ := trivial
  block _ := trivial

theorem Faithful.verdict_eq (txHash : String) :
    verdict (oracle txHash) = verdict (.ok (history.transaction txHash)) := by
  rcases faithful.agrees txHash with same | ⟨none, failure, failed⟩
  · rw [same]
  · rw [none, failed]
    rfl

theorem Faithful.read {statement : Store.Statement} (read : statement.isRead = true)
    {before after : Store} {reply : Except Store.Fault statement.Reply}
    (answered : answers (.storage statement) before reply after) :
    after = before ∧ ∀ value, reply = .ok value → (statement.run before).1 = .ok value := by
  obtain ⟨same, told⟩ := faithful.manners.read read answered
  refine ⟨same, ?_⟩
  rintro value rfl
  exact told

theorem Faithful.keeps_isConfirmed (txHash : String) (state : Store) :
    (isConfirmed txHash).Keeps answers (fun _ _ => True) (fun result after => after = state ∧
      match result with
      | .ok confirmed => confirmed = history.confirms txHash
      | .error failure => ∃ cause, oracle txHash = .error cause ∧
          failure = (Failure.ofCause (.chain cause)).within ("failed to fetch tx " ++ txHash))
      state := by
  intro reply after answered
  obtain ⟨rfl, _⟩ := faithful.within answered
  refine ⟨trivial, ?_⟩
  rw [faithful.transaction answered]
  rcases faithful.agrees txHash with same | ⟨_, failure, failed⟩
  · rw [same]
    unfold History.confirms
    cases history.transaction txHash <;> exact ⟨rfl, rfl⟩
  · rw [failed]
    exact ⟨rfl, failure, rfl, rfl⟩

def Fails (halts : Failure → Prop) {α : Type} (result : Except Failure α) (_ : Store) : Prop :=
  ∀ failure, result = .error failure → halts failure

omit faithful in
theorem fails_ok {halts : Failure → Prop} {α : Type} (value : α) (state : Store) :
    Fails halts (.ok value) state := by
  rintro failure ⟨⟩

omit faithful in
theorem keeps_storage_halts {observed : Observed} {met : Store} (statement : Store.Statement)
    (state : Store) :
    (storage statement).Keeps answers (fun _ _ => True)
      (Fails (Halts settings oracle history answers observed met)) state := by
  refine (keeps_storage _).mpr fun reply after answered => ⟨trivial, ?_⟩
  cases reply with
  | ok value => exact fails_ok value after
  | error fault =>
      rintro failure ⟨⟩
      exact .storage answered

theorem Faithful.keeps_confirmed {observed : Observed} {met : Store}
    (missing : Missing settings observed met) {insert : Stamp → Activity Failure Unit}
    (inserts : ∀ stamp state, history.confirms observed.txHash = true →
      (insert stamp).Keeps answers (fun _ _ => True)
        (Fails (Halts settings oracle history answers observed met)) state) (state : Store) :
    Keeps answers (fun _ _ => True)
      (Fails (Halts settings oracle history answers observed met))
      (do
        if ← isConfirmed observed.txHash then
          let stamp ← Activity.request .stamp
          insert stamp) state := by
  refine (faithful.keeps_isConfirmed observed.txHash state).bind ?_ ?_
  · rintro confirmed asked ⟨rfl, told⟩
    cases confirmed with
    | false => exact fails_ok () asked
    | true => exact fun stamp after _ => ⟨trivial, inserts stamp after told.symm⟩
  · rintro failure asked ⟨rfl, cause, failed, rfl⟩ failure ⟨⟩
    exact .chain missing failed

theorem Faithful.keeps_admitObserved {observed : Observed} {met : Store}
    (untracked : findTracked met.tracked observed.txHash = .ok none) :
    (admitObserved settings observed).Keeps answers (fun _ _ => True)
      (Fails (Halts settings oracle history answers observed met)) met := by
  have inserts : ∀ (statement : Store.Statement) (state : Store),
      Keeps answers (fun _ _ => True)
        (Fails (Halts settings oracle history answers observed met))
        (discard (storage statement)) state := by
    intro statement state
    have written : (storage statement).Keeps answers (fun _ _ => True)
        (Fails (Halts settings oracle history answers observed met)) state :=
      keeps_storage_halts statement state
    refine (keeps_discard _ _).mpr (written.mono ?_)
    rintro (fault | value) after fails
    · rintro failure ⟨⟩
      exact fails fault rfl
    · exact fails_ok () after
  -- The lookup, the chain, the height and the insert may fail, in this order, and nothing else.
  cases observed with
  | migration migration =>
      intro reply looked answered
      obtain ⟨rfl, told⟩ := faithful.read rfl answered
      refine ⟨trivial, ?_⟩
      rcases reply with fault | found
      · rintro failure ⟨⟩
        exact .storage answered
      · cases found with
        | some record => exact fails_ok () looked
        | none =>
            have missing : Missing settings (.migration migration) looked :=
              ⟨untracked, told _ rfl⟩
            exact faithful.keeps_confirmed missing (fun stamp state _ => inserts _ state) looked
  | transfer transfer =>
      simp only [admitObserved]
      cases bound : isBankBound settings transfer with
      | false => exact fails_ok () met
      | true =>
          intro reply looked answered
          obtain ⟨rfl, told⟩ := faithful.read rfl answered
          refine ⟨trivial, ?_⟩
          rcases reply with fault | found
          · rintro failure ⟨⟩
            exact .storage answered
          · cases found with
            | some record => exact fails_ok () looked
            | none =>
                have missing : Missing settings (.transfer transfer) looked :=
                  ⟨untracked, bound, told _ rfl⟩
                refine faithful.keeps_confirmed missing (fun stamp state confirmed => ?_) looked
                cases fits : Height.stored? transfer.height with
                | none =>
                    rintro failure ⟨⟩
                    exact .height rfl missing confirmed fits
                | some height => exact inserts _ state
  | other txHash => exact fails_ok () met

theorem Faithful.keeps_handleObserved (observed : Observed) (met : Store) :
    (handleObserved settings observed).Keeps answers (fun _ _ => True)
      (Fails (Halts settings oracle history answers observed met)) met := by
  intro reply looked answered
  obtain ⟨rfl, told⟩ := faithful.read rfl answered
  refine ⟨trivial, ?_⟩
  rcases reply with fault | found
  · rintro failure ⟨⟩
    exact .storage answered
  · cases found with
    | none => exact faithful.keeps_admitObserved (told _ rfl)
    | some tracked =>
        change (reconcile tracked).Keeps answers _ _ looked
        unfold reconcile
        split
        · exact fails_ok () looked
        · exact fun reply asked _ => ⟨trivial, fun stamp stamped _ =>
            ⟨trivial, keeps_storage_halts _ stamped⟩⟩

end Faithful

section Observed

variable (settings : Settings) (batch : Chain.Batch)

theorem hashes_observed :
    (settings.observed batch).map Observed.txHash = batch.hashes settings.contract := by
  simp only [Settings.observed, observe, Chain.Batch.hashes, List.map_append, List.map_map]
  rfl

theorem find?_never {α : Type} (items : List α) : items.find? (fun _ => false) = none :=
  List.find?_eq_none.mpr fun _ _ => Bool.false_ne_true

theorem first_migrates (txHash : String) :
    (settings.observed batch).find? (Observed.migrates txHash) =
      ((batch.migrations settings.contract).find? fun other => other.txHash = txHash).map
        Observed.migration := by
  simp [Settings.observed, observe, List.find?_append, List.find?_map, Function.comp_def,
    Observed.migrates, find?_never]

theorem first_deposits (txHash : String) :
    (settings.observed batch).find? (Observed.deposits settings txHash) =
      ((batch.transfers settings.contract).find?
        fun other => isBankBound settings other && other.txHash = txHash).map
        Observed.transfer := by
  simp [Settings.observed, observe, List.find?_append, List.find?_map, Function.comp_def,
    Observed.deposits, find?_never]

end Observed

def Unconcerned (before after : Store) : Prop :=
  after.cursors = before.cursors ∧ after.movements = before.movements

structure Between (settings : Settings) (history : History) (batch : Chain.Batch) (start : Store)
    (done : List Observed) (store : Store) : Prop where
  gained : Gained settings history [batch] start store
  lasts : Lasts start store
  unconcerned : Unconcerned start store
  handled : ∀ observed ∈ done, Handled settings history observed store

def Interrupted (settings : Settings) (oracle : Oracle) (history : History)
    (answers : Answering Store) (batch : Chain.Batch) (start : Store) (failure : Failure)
    (final : Store) : Prop :=
  ∃ done observed later, settings.observed batch = done ++ observed :: later ∧
    Between settings history batch start done final ∧
    ∃ met, Between settings history batch start done met ∧
      Halts settings oracle history answers observed met failure

section Handling

variable (faithful : Faithful oracle history answers)

include faithful

theorem Faithful.keeps_unconcerned (observed : Observed) (state : Store) :
    (handleObserved settings observed).Keeps answers (fun _ _ => True)
      (fun _ after => Unconcerned state after) state := by
  have trans : ∀ {first second third : Store}, Unconcerned first second →
      Unconcerned second third → Unconcerned first third :=
    fun before after => ⟨after.1.trans before.1, after.2.trans before.2⟩
  refine (asks_handleObserved settings observed).keeps (fun _ => ⟨rfl, rfl⟩) trans ?_
    (fun _ _ => trivial)
  intro request before reply after attends answered
  have same := faithful.within answered
  cases request with
  | storage statement =>
      have ran := faithful.manners.ran answered
      rcases ran with rfl | ⟨_, rfl⟩
      · exact ⟨rfl, rfl⟩
      · cases statement <;> first
          | exact ⟨rfl, rfl⟩
          | (simp only [Store.Statement.run]; split <;> exact ⟨rfl, rfl⟩)
          | cases attends
  | transaction txHash => exact same.1 ▸ ⟨rfl, rfl⟩
  | stamp =>
      obtain rfl := same
      exact ⟨rfl, rfl⟩
  | _ => cases attends

theorem Faithful.keeps_event (identified : Identified start.tracked) {done later : List Observed}
    {observed : Observed} (all : settings.observed batch = done ++ observed :: later)
    {state : Store} (between : Between settings history batch start done state) :
    (handleObserved settings observed).Keeps answers (fun _ _ => True) (fun result after =>
      match result with
      | .ok _ => Between settings history batch start (done ++ [observed]) after
      | .error failure => Interrupted settings oracle history answers batch start failure after)
      state := by
  let pact := gaining settings history [batch] answers start
  have known := identified.lasts between.lasts
  have due : Due settings history batch observed state := ⟨done, later, all, between.handled⟩
  have verdicts : ∀ {txHash before answer after},
      answers (.transaction txHash) before answer after →
      verdict answer = verdict (.ok (history.transaction txHash)) := by
    intro txHash before answer after answered
    rw [faithful.transaction answered, faithful.verdict_eq]
  have lasts : ∀ {before after}, Identified before.tracked → pact.others before after →
      Lasts before after := fun known passed => passed.2 known
  have handles : (handleObserved settings observed).Abides pact (fun _ result store =>
      Outcome settings history pact True observed state result store) [batch] state :=
    abides_handleObserved faithful.manners lasts known
      (fun request before after passed effect =>
        gains_conducted verdicts (List.mem_singleton.mpr rfl) known between.gained
          ⟨state, pact.refl state, passed, .inr ⟨observed, due, effect⟩⟩) [batch]
  -- One and the same run is seen by three invariants: what it gains, what it spares and why it
  -- fails.
  have whole := (handles.keeps.and (faithful.keeps_unconcerned observed state)).and
    (faithful.keeps_handleObserved observed state)
  refine whole.mono ?_
  rintro result after ⟨⟨⟨passed, outcome⟩, same⟩, fails⟩
  have kept := passed.2 known
  have still : Between settings history batch start done after :=
    ⟨passed.1 between.gained, between.lasts.trans kept,
      ⟨same.1.trans between.unconcerned.1, same.2.trans between.unconcerned.2⟩,
      fun other member => (between.handled other member).lasts kept⟩
  cases result with
  | ok value =>
      refine { still with handled := fun other member => ?_ }
      rcases List.mem_append.mp member with earlier | last
      · exact still.handled other earlier
      · obtain rfl := List.mem_singleton.mp last
        exact outcome
  | error failure =>
      exact ⟨done, observed, later, all, still, state, between, fails failure rfl⟩

theorem Faithful.keeps_handleEvents (identified : Identified start.tracked)
    (unique : Unique start) :
    (handleEvents settings batch (batch.transfers settings.contract)).Keeps answers
      (fun _ _ => True) (fun result after =>
        match result with
        | .ok _ => Between settings history batch start (settings.observed batch) after
        | .error failure =>
            Interrupted settings oracle history answers batch start failure after) start :=
  keeps_forEach (fun _ _ _ all _ between => faithful.keeps_event identified all between)
    ⟨.refl unique, .refl start, ⟨rfl, rfl⟩, by simp⟩

end Handling

section Outcome

theorem new_migration {row : MigrationRow}
    (due : DueMigration settings history [batch] start row.core)
    (absent : row.txHash ∉ start.migrations.map MigrationRow.txHash) :
    ∃ migration, NewMigration settings history batch start migration ∧
      row.core = migrationRow migration := by
  obtain ⟨untracked, confirmed, other, only, migration, made, first⟩ := due
  obtain rfl := List.mem_singleton.mp only
  have hash : row.core.txHash = migration.txHash := congrArg MigrationRow.txHash made
  rw [hash] at untracked confirmed first
  rw [first_migrates, Option.map_eq_some_iff] at first
  obtain ⟨other, first, same⟩ := first
  cases same
  exact ⟨migration, ⟨untracked, hash ▸ absent, confirmed, first⟩, made⟩

theorem new_transfer {row : DepositRow}
    (due : DueDeposit settings history [batch] start row.core)
    (absent : row.txHash ∉ start.deposits.map DepositRow.txHash) :
    ∃ transfer height, NewTransfer settings history batch start transfer ∧
      Height.stored? transfer.height = some height ∧ row.core = depositRow transfer height := by
  obtain ⟨untracked, confirmed, other, only, transfer, height, made, fits, first⟩ := due
  obtain rfl := List.mem_singleton.mp only
  have hash : row.core.txHash = transfer.txHash := congrArg DepositRow.txHash made
  rw [hash] at untracked confirmed first
  rw [first_deposits, Option.map_eq_some_iff] at first
  obtain ⟨other, first, same⟩ := first
  cases same
  exact ⟨transfer, height, ⟨untracked, hash ▸ absent, confirmed, first⟩, fits, made⟩

theorem added_distinct {row : Type} {key : row → String} {before added : List row}
    (distinct : ((before ++ added).map key).Nodup) :
    (added.map key).Nodup ∧ ∀ item ∈ added, key item ∉ before.map key := by
  rw [List.map_append, List.nodup_append] at distinct
  obtain ⟨_, nodup, apart⟩ := distinct
  exact ⟨nodup, fun item member present => apart _ present _ (List.mem_map_of_mem member) rfl⟩

variable {done : List Observed} {finished : Prop}
  (between : Between settings history batch start done final)
  (all : finished → done = settings.observed batch)

include between all

theorem Between.follows_migrations : ∃ added, final.migrations = start.migrations ++ added ∧
    (added.map MigrationRow.txHash).Nodup ∧
    (∀ row ∈ added, ∃ migration, NewMigration settings history batch start migration ∧
      row.core = migrationRow migration) ∧
    (finished → ∀ migration, NewMigration settings history batch start migration →
      migrationRow migration ∈ added.map MigrationRow.core) := by
  obtain ⟨added, grown, distinct, due⟩ := between.gained.migrations
  rw [grown] at distinct
  obtain ⟨nodup, apart⟩ := added_distinct distinct
  have new := fun row member => new_migration (due row member) (apart row member)
  refine ⟨added, grown, nodup, new, fun whole migration wanted => ?_⟩
  obtain ⟨untracked, absent, confirmed, first⟩ := wanted
  have found := (first_migrates settings batch migration.txHash).trans (by rw [first])
  have handled : Handled settings history (.migration migration) final :=
    between.handled _ (all whole ▸ List.mem_of_find?_eq_some found)
  rw [← between.gained.hashes] at untracked
  have present := handled.mem_migrations untracked confirmed
  rw [grown, List.map_append, List.mem_append] at present
  obtain ⟨row, member, hash⟩ := List.mem_map.mp (present.resolve_left absent)
  obtain ⟨other, ⟨_, _, _, otherFirst⟩, made⟩ := new row member
  have same : other.txHash = migration.txHash :=
    (congrArg MigrationRow.txHash made).symm.trans hash
  rw [same, first] at otherFirst
  cases otherFirst
  exact List.mem_map.mpr ⟨row, member, made⟩

theorem Between.follows_deposits : ∃ added, final.deposits = start.deposits ++ added ∧
    (added.map DepositRow.txHash).Nodup ∧
    (∀ row ∈ added, ∃ transfer height, NewTransfer settings history batch start transfer ∧
      Height.stored? transfer.height = some height ∧ row.core = depositRow transfer height) ∧
    (finished → ∀ transfer, NewTransfer settings history batch start transfer →
      ∃ height, Height.stored? transfer.height = some height ∧
        depositRow transfer height ∈ added.map DepositRow.core) := by
  obtain ⟨added, grown, distinct, due⟩ := between.gained.deposits
  rw [grown] at distinct
  obtain ⟨nodup, apart⟩ := added_distinct distinct
  have new := fun row member => new_transfer (due row member) (apart row member)
  refine ⟨added, grown, nodup, new, fun whole transfer wanted => ?_⟩
  obtain ⟨untracked, absent, confirmed, first⟩ := wanted
  have found := (first_deposits settings batch transfer.txHash).trans (by rw [first])
  have handled : Handled settings history (.transfer transfer) final :=
    between.handled _ (all whole ▸ List.mem_of_find?_eq_some found)
  have bound : isBankBound settings transfer = true := by
    have hit := List.find?_some first
    simp only [Bool.and_eq_true] at hit
    exact hit.1
  rw [← between.gained.hashes] at untracked
  have present := handled.mem_deposits untracked bound confirmed
  rw [grown, List.map_append, List.mem_append] at present
  obtain ⟨row, member, hash⟩ := List.mem_map.mp (present.resolve_left absent)
  obtain ⟨other, height, ⟨_, _, _, otherFirst⟩, fits, made⟩ := new row member
  have same : other.txHash = transfer.txHash :=
    (congrArg DepositRow.txHash made).symm.trans hash
  rw [same, first] at otherFirst
  cases otherFirst
  exact ⟨height, fits, List.mem_map.mpr ⟨row, member, made⟩⟩

theorem Between.follows_tracked (faithful : Faithful oracle history answers)
    (unique : Unique start) : ∃ change, final.tracked = start.tracked.map change ∧
    ∀ row ∈ start.tracked, (change row = row ∧ (finished → ¬ Concerns settings batch row)) ∨
      Concerns settings batch row ∧ ∃ now : Timestamp, change row = { row with
        status := Named.text (verdict (oracle row.txHash)).1
        message := (verdict (oracle row.txHash)).2
        updated := now.stored } := by
  obtain ⟨change, rows, _, settles⟩ := between.gained.tracked
  refine ⟨change, rows, fun row member => ?_⟩
  rcases settles row member with same | ⟨can, ⟨other, only, observed, seen, hash⟩, now, settled⟩
  · left
    refine ⟨same, fun whole => ?_⟩
    rintro ⟨isOpen, mentioned⟩
    rw [← hashes_observed, ← all whole] at mentioned
    obtain ⟨observed, seen, hash⟩ := List.mem_map.mp mentioned
    have distinct : (final.tracked.map TrackedRow.txHash).Nodup := by
      rw [between.gained.hashes]
      exact unique.tracked
    have there : row ∈ final.tracked := by
      rw [rows]
      exact List.mem_map.mpr ⟨row, member, same⟩
    obtain ⟨record, reads, terminal⟩ := (between.handled observed seen).closed distinct there
      hash.symm
    obtain ⟨_, _, status⟩ := row.read_ok reads
    rw [TrackedRow.not_isOpen terminal status] at isOpen
    cases isOpen
  · right
    obtain rfl := List.mem_singleton.mp only
    rw [← faithful.verdict_eq] at settled
    refine ⟨⟨can.isOpen, ?_⟩, now, settled⟩
    rw [← hashes_observed, ← hash]
    exact List.mem_map_of_mem seen

theorem Between.follows (faithful : Faithful oracle history answers) (unique : Unique start) :
    Follows settings oracle history batch start finished final where
  others := by
    obtain ⟨cursors, movements⟩ := between.unconcerned
    rw [← cursors, ← movements, ← between.gained.registrations]
  tracked := between.follows_tracked all faithful unique
  migrations := between.follows_migrations all
  deposits := between.follows_deposits all

end Outcome

section Failing

variable {done later : List Observed} {observed : Observed} {met : Store}
  (between : Between settings history batch start done met)
  (all : settings.observed batch = done ++ observed :: later)

include between

theorem Between.untracked (missing : Missing settings observed met) :
    observed.txHash ∉ start.tracked.map TrackedRow.txHash := by
  rw [← between.gained.hashes]
  intro present
  cases Store.isSome_of_mem missing.1 present

include all

theorem Between.admissible (missing : Missing settings observed met) :
    Admissible settings batch start observed.txHash := by
  have member : observed ∈ settings.observed batch := by simp [all]
  refine ⟨between.untracked missing, ?_⟩
  obtain ⟨_, absent⟩ := missing
  cases observed with
  | migration migration =>
      left
      refine ⟨migration, ?_, rfl, fun present => ?_⟩
      · simpa [Settings.observed, observe] using member
      · cases Store.isSome_of_mem absent (between.gained.migrations.subset present)
  | transfer transfer =>
      right
      obtain ⟨bound, absent⟩ := absent
      refine ⟨transfer, ?_, bound, rfl, fun present => ?_⟩
      · simpa [Settings.observed, observe] using member
      · cases Store.isSome_of_mem absent (between.gained.deposits.subset present)
  | other txHash => exact absent.elim

theorem Between.stops {failure : Failure}
    (halts : Halts settings oracle history answers observed met failure) :
    Stops settings oracle history answers batch start failure := by
  cases halts with
  | storage failed => exact .storage failed
  | chain missing failed => exact .chain (between.admissible all missing) failed
  | @height transfer kind missing confirmed misfit =>
      subst kind
      have due : Due settings history batch (.transfer transfer) met :=
        ⟨done, later, all, between.handled⟩
      have first := due.first_transfer missing confirmed
      rw [first_deposits, Option.map_eq_some_iff] at first
      obtain ⟨other, first, same⟩ := first
      cases same
      refine .height ⟨between.untracked missing, fun present => ?_, confirmed, first⟩ misfit
      cases Store.isSome_of_mem missing.2.2 (between.gained.deposits.subset present)

end Failing

end Consumer

end Settlement
