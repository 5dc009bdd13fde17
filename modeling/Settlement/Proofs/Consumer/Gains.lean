import Mathlib.Data.List.Pairwise
import Settlement.Proofs.Consumer.Delivery
import Settlement.Proofs.Store.Growth

/-!
What the tables gain from some batches, whoever handles them, how often and in which order. A
row that is added was due: it belongs to the first event with its key, and the batches share no
transaction, so the key decides what the row says. The tracked transactions only go to the
chain's verdict.
-/

namespace Settlement.Consumer

open Activity
open Store (Lasts Identified GrownBy Unique)

def ShareNone (first second : Chain.Batch) : Prop :=
  ∀ event ∈ first.events, ∀ other ∈ second.events, event.txHash ≠ other.txHash

instance : Std.Symm ShareNone :=
  ⟨fun _ _ shares other inSecond event inFirst same =>
    shares event inFirst other inSecond same.symm⟩

def Apart (batches : List Chain.Batch) : Prop := batches.Pairwise ShareNone

theorem Apart.eq {batches : List Chain.Batch} (apart : Apart batches) {first second : Chain.Batch}
    (inFirst : first ∈ batches) (inSecond : second ∈ batches) {event other : Chain.Event}
    (here : event ∈ first.events) (there : other ∈ second.events)
    (same : event.txHash = other.txHash) : first = second := by
  by_contra different
  exact apart.forall inFirst inSecond different event here other there same

theorem hash_observed {settings : Settings} {batch : Chain.Batch} {observed : Observed}
    (member : observed ∈ settings.observed batch) :
    ∃ event ∈ batch.events, event.txHash = observed.txHash := by
  simp only [Settings.observed, observe, Chain.Batch.mints, Chain.Batch.burns,
    Chain.Batch.redemptions, Chain.Batch.transfers, Chain.Batch.migrations, Chain.Batch.actions,
    List.mem_append, List.mem_map, List.mem_filter] at member
  rcases member with (((⟨_, ⟨event, ⟨there, _⟩, rfl⟩, rfl⟩ | ⟨_, ⟨event, ⟨there, _⟩, rfl⟩, rfl⟩) |
    ⟨_, ⟨event, ⟨there, _⟩, rfl⟩, rfl⟩) | ⟨_, ⟨event, ⟨there, _⟩, rfl⟩, rfl⟩) |
    ⟨_, ⟨event, ⟨there, _⟩, rfl⟩, rfl⟩
  all_goals exact ⟨event, there, rfl⟩

def Observed.migrates (txHash : String) : Observed → Bool
  | .migration event => event.txHash = txHash
  | _ => false

def Observed.deposits (settings : Settings) (txHash : String) : Observed → Bool
  | .transfer event => isBankBound settings event && event.txHash = txHash
  | _ => false

section Rows

def migrationRow (migration : Chain.Migration) : Store.MigrationRow where
  id := ""
  codeId := migration.codeId
  txHash := migration.txHash
  sent := none
  created := ""

def depositRow (transfer : Chain.Transfer) (height : Int) : Store.DepositRow where
  id := ""
  fromAddress := transfer.sender
  toAddress := transfer.recipient
  denom := transfer.denom
  amount := transfer.amount
  height := .number height
  txHash := transfer.txHash
  status := Named.text DepositStatus.inserted
  claimedUntil := none
  created := ""
  updated := ""

end Rows

section Due

variable (settings : Settings) (history : History) (batches : List Chain.Batch) (start : Store)

def DueMigration (row : Store.MigrationRow) : Prop :=
  row.txHash ∉ start.tracked.map Store.TrackedRow.txHash ∧ history.confirms row.txHash = true ∧
    ∃ batch ∈ batches, ∃ migration, row = migrationRow migration ∧
      (settings.observed batch).find? (Observed.migrates row.txHash) = some (.migration migration)

def DueDeposit (row : Store.DepositRow) : Prop :=
  row.txHash ∉ start.tracked.map Store.TrackedRow.txHash ∧ history.confirms row.txHash = true ∧
    ∃ batch ∈ batches, ∃ transfer height, row = depositRow transfer height ∧
      Height.stored? transfer.height = some height ∧
      (settings.observed batch).find? (Observed.deposits settings row.txHash) =
        some (.transfer transfer)

def DueMovement (row : Store.MovementRow) : Prop :=
  ∃ batch ∈ batches, ∃ entries,
    entries? settings history batch start.registrations = some entries ∧
      ∃ entry ∈ entries, entry.fact? = some row

def Settles (before after : Store.TrackedRow) : Prop :=
  after = before ∨ before.CanSettle ∧
    (∃ batch ∈ batches, ∃ observed ∈ settings.observed batch, observed.txHash = before.txHash) ∧
    ∃ now : Timestamp, after = { before with
      status := Named.text (verdict (.ok (history.transaction before.txHash))).1
      message := (verdict (.ok (history.transaction before.txHash))).2
      updated := now.stored }

/-- What the tables may have gained from the batches since the start. -/
structure Gained (store : Store) : Prop where
  registrations : store.registrations = start.registrations
  tracked : ∃ change : Store.TrackedRow → Store.TrackedRow,
    store.tracked = start.tracked.map change ∧ (∀ row, (change row).columns = row.columns) ∧
      ∀ row ∈ start.tracked, Settles settings history batches row (change row)
  migrations : GrownBy Store.MigrationRow.txHash Store.MigrationRow.core
    (DueMigration settings history batches start) start.migrations store.migrations
  deposits : GrownBy Store.DepositRow.txHash Store.DepositRow.core
    (DueDeposit settings history batches start) start.deposits store.deposits
  movements : GrownBy (·.key) Store.MovementRow.facts
    (DueMovement settings history batches start) start.movements store.movements

end Due

variable {settings : Settings} {history : History} {batches : List Chain.Batch} {start : Store}

/-! The key of a row decides what the row says. -/

theorem batch_of_hash (apart : Apart batches) {first second : Chain.Batch}
    (inFirst : first ∈ batches) (inSecond : second ∈ batches) {observed other : Observed}
    (here : observed ∈ settings.observed first) (there : other ∈ settings.observed second)
    (same : observed.txHash = other.txHash) : first = second := by
  obtain ⟨event, inHere, hash⟩ := hash_observed here
  obtain ⟨another, inThere, otherHash⟩ := hash_observed there
  exact apart.eq inFirst inSecond inHere inThere (by rw [hash, otherHash, same])

theorem dueMigration_decided (apart : Apart batches) {first second : Store.MigrationRow}
    (dueFirst : DueMigration settings history batches start first)
    (dueSecond : DueMigration settings history batches start second)
    (same : first.txHash = second.txHash) : first = second := by
  obtain ⟨_, _, batch, inBatches, migration, rfl, found⟩ := dueFirst
  obtain ⟨_, _, other, otherIn, another, rfl, otherFound⟩ := dueSecond
  obtain rfl := batch_of_hash apart inBatches otherIn (List.mem_of_find?_eq_some found)
    (List.mem_of_find?_eq_some otherFound) same
  rw [← same, found] at otherFound
  cases otherFound
  rfl

theorem dueDeposit_decided (apart : Apart batches) {first second : Store.DepositRow}
    (dueFirst : DueDeposit settings history batches start first)
    (dueSecond : DueDeposit settings history batches start second)
    (same : first.txHash = second.txHash) : first = second := by
  obtain ⟨_, _, batch, inBatches, transfer, height, rfl, fits, found⟩ := dueFirst
  obtain ⟨_, _, other, otherIn, another, otherHeight, rfl, otherFits, otherFound⟩ := dueSecond
  obtain rfl := batch_of_hash apart inBatches otherIn (List.mem_of_find?_eq_some found)
    (List.mem_of_find?_eq_some otherFound) same
  rw [← same, found] at otherFound
  cases otherFound
  rw [fits] at otherFits
  cases otherFits
  rfl

theorem dueMovement_decided (apart : Apart batches) {first second : Store.MovementRow}
    (dueFirst : DueMovement settings history batches start first)
    (dueSecond : DueMovement settings history batches start second)
    (same : first.key = second.key) : first = second := by
  obtain ⟨batch, inBatches, entries, made, entry, member, fact⟩ := dueFirst
  obtain ⟨other, otherIn, others, otherMade, another, otherMember, otherFact⟩ := dueSecond
  have keys : entry.key = another.key := by
    rw [← Store.Entry.key_fact fact, ← Store.Entry.key_fact otherFact, same]
  -- The key tells the hash, only one batch has that hash, and its entries have keys of their own.
  have origin : ∀ {batch : Chain.Batch} {entries : List Store.Entry} {entry : Store.Entry},
      entries? settings history batch start.registrations = some entries → entry ∈ entries →
        ∃ event ∈ batch.events, ∃ index : Nat,
          entry.key = event.txHash ++ "-" ++ toString index := by
    intro batch entries entry made member
    rw [entries?_some made] at member
    obtain ⟨offset, item, found, key⟩ :=
      Ledger.mem_keys_entriesFrom.mp (List.mem_map_of_mem (f := Store.Entry.key) member)
    obtain ⟨event, there, hash⟩ := Intake.hash_admitted (List.mem_of_getElem? found)
    exact ⟨event, there, _, by rw [key, hash]⟩
  obtain ⟨event, here, index, key⟩ := origin made member
  obtain ⟨rival, there, otherIndex, otherKey⟩ := origin otherMade otherMember
  rw [key, otherKey] at keys
  obtain rfl := apart.eq inBatches otherIn here there (Ledger.key_inj keys).1
  rw [made] at otherMade
  cases otherMade
  have distinct : (entries.map Store.Entry.key).Nodup := by
    rw [entries?_some made]
    exact Ledger.nodup_keys_entriesFrom _ _ _
  obtain rfl := List.inj_on_of_nodup_map distinct member otherMember
    (by rw [key, otherKey, keys])
  rw [fact] at otherFact
  cases otherFact
  rfl

/-! What is asked for a batch adds what is due. -/

theorem Due.find {batch : Chain.Batch} {observed : Observed} {store : Store}
    {wanted : Observed → Bool} (due : Due settings history batch observed store)
    (here : wanted observed = true)
    (never : ∀ other, wanted other = true → ¬ Handled settings history other store) :
    (settings.observed batch).find? wanted = some observed := by
  obtain ⟨earlier, later, all, handled⟩ := due
  rw [List.find?_eq_some_iff_append]
  refine ⟨here, earlier, later, all, fun other member => ?_⟩
  cases hit : wanted other with
  | false => rfl
  | true => exact (never other hit (handled other member)).elim

theorem Due.first_migration {batch : Chain.Batch} {migration : Chain.Migration} {store : Store}
    (due : Due settings history batch (.migration migration) store)
    (missing : Missing settings (.migration migration) store)
    (confirmed : history.confirms migration.txHash = true) :
    (settings.observed batch).find? (Observed.migrates migration.txHash) =
      some (.migration migration) := by
  refine due.find (by simp [Observed.migrates]) fun other hit handled => ?_
  cases other with
  | migration other =>
      have same : other.txHash = migration.txHash := by simpa [Observed.migrates] using hit
      have absent : Missing settings (.migration other) store := by
        simpa [Missing, Observed.txHash, same] using missing
      have refuted := handled.unconfirmed absent
      rw [Observed.txHash, same, confirmed] at refuted
      cases refuted
  | _ => cases hit

theorem Due.first_transfer {batch : Chain.Batch} {transfer : Chain.Transfer} {store : Store}
    (due : Due settings history batch (.transfer transfer) store)
    (missing : Missing settings (.transfer transfer) store)
    (confirmed : history.confirms transfer.txHash = true) :
    (settings.observed batch).find? (Observed.deposits settings transfer.txHash) =
      some (.transfer transfer) := by
  obtain ⟨untracked, bound, absent⟩ := missing
  refine due.find (by simp [Observed.deposits, bound]) fun other hit handled => ?_
  cases other with
  | transfer other =>
      have both : isBankBound settings other = true ∧ other.txHash = transfer.txHash := by
        simpa [Observed.deposits] using hit
      obtain ⟨otherBound, same⟩ := both
      have absent : Missing settings (.transfer other) store :=
        ⟨by simpa [Observed.txHash, same] using untracked, otherBound, by rw [same, absent]⟩
      have refuted := handled.unconfirmed absent
      rw [Observed.txHash, same, confirmed] at refuted
      cases refuted
  | _ => cases hit

theorem Gained.refl (unique : Unique start) : Gained settings history batches start start where
  registrations := rfl
  tracked := ⟨id, (List.map_id _).symm, fun _ => rfl, fun _ _ => .inl rfl⟩
  migrations := .refl unique.migrations
  deposits := .refl unique.deposits
  movements := .refl unique.movements

namespace Gained

variable {store : Store} (gained : Gained settings history batches start store)

include gained

theorem hashes : store.tracked.map Store.TrackedRow.txHash =
    start.tracked.map Store.TrackedRow.txHash := by
  obtain ⟨change, rows, columns, _⟩ := gained.tracked
  rw [rows, List.map_map]
  exact List.map_congr_left fun row _ => congrArg (fun columns => columns.2.1) (columns row)

theorem settle {txHash : String} {status : TxStatus} {message : Option String} {now : Timestamp}
    (identified : Identified store.tracked)
    (seen : ∃ batch ∈ batches, ∃ observed ∈ settings.observed batch, observed.txHash = txHash)
    (told : (status, message) = verdict (.ok (history.transaction txHash))) :
    Gained settings history batches start
      ((Store.Statement.settle txHash status message now).run store).2 := by
  simp only [Store.Statement.run]
  split
  · rename_i rows settled
    obtain ⟨change, same, columns, before⟩ := gained.tracked
    obtain ⟨further, rfl, furtherColumns, changed⟩ := Store.settle_rows identified settled
    refine { gained with tracked := ⟨further ∘ change, by rw [same, List.map_map],
      fun row => (furtherColumns (change row)).trans (columns row), ?_⟩ }
    intro row member
    have there : change row ∈ store.tracked := by
      rw [same]
      exact List.mem_map_of_mem member
    rw [Function.comp_apply]
    rcases changed _ there with kept | ⟨can, hash, made⟩
    · rw [kept]
      exact before row member
    · rcases before row member with unmoved | ⟨⟨tracked, reads, _⟩, _, earlier, settled⟩
      · rw [unmoved] at can hash made
        subst hash
        exact .inr ⟨can, seen, now, by rw [unmoved, made, ← told]⟩
      · -- It is terminal by now, so it cannot have been settled again.
        obtain ⟨other, rereads, live⟩ := can
        rw [settled, Store.TrackedRow.read_settled _ _ _ reads] at rereads
        cases rereads
        rw [verdict_terminal] at live
        cases live
  · exact gained

theorem addMigration {record : Store.Migration}
    (due : DueMigration settings history batches start record.row.core) :
    Gained settings history batches start
      ((Store.Statement.addMigration record).run store).2 := by
  rcases Store.run_insertMigration record store with ⟨_, ran⟩ | ⟨free, ran⟩
  · rw [ran]
    exact gained
  · rw [ran]
    exact { gained with
      migrations := gained.migrations.add (fun row member => (free row member).2) due }

theorem addDeposit {record : Store.Deposit}
    (due : DueDeposit settings history batches start record.row.core) :
    Gained settings history batches start ((Store.Statement.addDeposit record).run store).2 := by
  rcases Store.run_insertDeposit record store with ⟨_, ran⟩ | ⟨free, ran⟩
  · rw [ran]
    exact gained
  · rw [ran]
    exact { gained with
      deposits := gained.deposits.add (fun row member => (free row member).2) due }

theorem append {batch : Chain.Batch} {entries : List Store.Entry} {now : Nat → Timestamp}
    (member : batch ∈ batches)
    (made : entries? settings history batch start.registrations = some entries) :
    Gained settings history batches start
      ((Store.Statement.append entries now).run store).2 := by
  simp only [Store.Statement.run]
  split
  · rename_i count rows appended
    obtain ⟨added, rfl, _, distinct, source, _⟩ := Store.appendEntries_added appended
    refine { gained with
      movements := gained.movements.append (distinct gained.movements.nodup) ?_ }
    intro row inAdded
    obtain ⟨entry, inEntries, fact⟩ := source row inAdded
    exact ⟨batch, member, entries, made, entry, inEntries, fact⟩
  · exact gained

end Gained

/-! All that is done for the batches adds to the same gains. -/

/-- Everybody adds what is due, and what lasts is left. -/
def gaining (settings : Settings) (history : History) (batches : List Chain.Batch)
    (answers : Answering Store) (start : Store) :
    Pact (World.shared (List Chain.Batch) answers fun _ _ => False) where
  own _ before after := (Gained settings history batches start before →
    Gained settings history batches start after) ∧ (Identified before.tracked → Lasts before after)
  others before after := (Gained settings history batches start before →
    Gained settings history batches start after) ∧ (Identified before.tracked → Lasts before after)
  refl state := ⟨id, fun _ => .refl state⟩
  trans first second := ⟨fun gained => second.1 (first.1 gained), fun identified =>
    (first.2 identified).trans (second.2 (identified.lasts (first.2 identified)))⟩
  own_others := id
  elsewhere := False.elim

section Conducted

variable {answers : Answering Store} {batch : Chain.Batch} {state before after : Store}
  {request : Request}

theorem gained_effect (verdicts : ∀ {txHash before answer after},
      answers (.transaction txHash) before answer after →
      verdict answer = verdict (.ok (history.transaction txHash)))
    (member : batch ∈ batches) (identified : Identified state.tracked)
    (known : Identified before.tracked) {observed : Observed}
    (due : Due settings history batch observed state)
    (effect : Effect settings history answers (gaining settings history batches answers start)
      observed state request before after)
    (gained : Gained settings history batches start before) :
    Gained settings history batches start after := by
  have moved : ∀ {statement : Store.Statement}, statement.Ran before after →
      Gained settings history batches start (statement.run before).2 →
      Gained settings history batches start after := by
    rintro statement (rfl | ⟨_, rfl⟩) ran
    · exact gained
    · exact ran
  -- What was missing at some time since is due now, for the tracked hashes are the same.
  have admits : ∀ earlier, (gaining settings history batches answers start).others state earlier →
      (gaining settings history batches answers start).others earlier before →
      Missing settings observed earlier → Due settings history batch observed earlier ∧
        observed.txHash ∉ start.tracked.map Store.TrackedRow.txHash := by
    intro earlier since passed missing
    have kept := since.2 identified
    refine ⟨due.lasts kept, ?_⟩
    rw [← gained.hashes, (passed.2 (identified.lasts kept)).hashes]
    intro present
    cases Store.isSome_of_mem missing.1 present
  cases effect with
  | stamp | read | look => exact gained
  | settle answered told _ ran =>
      rw [verdicts answered] at told
      exact moved ran (gained.settle known ⟨batch, member, observed, due.mem, rfl⟩ told)
  | @addMigration migration _ _ _ _ kind confirmed missing ran =>
      subst kind
      obtain ⟨earlier, since, passed, missing⟩ := missing
      obtain ⟨dueThen, untracked⟩ := admits earlier since passed missing
      exact moved ran (gained.addMigration ⟨untracked, confirmed, batch, member, migration, rfl,
        dueThen.first_migration missing confirmed⟩)
  | @addDeposit transfer height _ _ _ _ kind fits confirmed missing ran =>
      subst kind
      obtain ⟨earlier, since, passed, missing⟩ := missing
      obtain ⟨dueThen, untracked⟩ := admits earlier since passed missing
      exact moved ran (gained.addDeposit ⟨untracked, confirmed, batch, member, transfer, height,
        rfl, fits, dueThen.first_transfer missing confirmed⟩)

theorem gained_entered (member : batch ∈ batches)
    (registrations : state.registrations = start.registrations)
    (entered : Entered settings history batch state request before after)
    (gained : Gained settings history batches start before) :
    Gained settings history batches start after := by
  cases entered with
  | times | header | resolve => exact gained
  | append made ran =>
      rcases ran with rfl | ⟨_, rfl⟩
      · exact gained
      · rw [registrations] at made
        exact gained.append member made

theorem gains_conducted (verdicts : ∀ {txHash before answer after},
      answers (.transaction txHash) before answer after →
      verdict answer = verdict (.ok (history.transaction txHash)))
    (member : batch ∈ batches) (identified : Identified state.tracked)
    (gained : Gained settings history batches start state)
    (conducted : Conducted settings history batch answers
      (gaining settings history batches answers start) state request before after) :
    (Gained settings history batches start before → Gained settings history batches start after) ∧
      (Identified before.tracked → Lasts before after) := by
  refine ⟨fun further => ?_, conducted.lasts⟩
  obtain ⟨here, since, passed, entered | ⟨observed, due, effect⟩⟩ := conducted
  · exact gained_entered member (since.1 gained).registrations entered further
  · have known := identified.lasts (since.2 identified)
    exact gained_effect verdicts member known (known.lasts (passed.2 known)) due effect
      further

end Conducted

end Settlement.Consumer
