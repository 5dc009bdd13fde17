import Settlement.Proofs.Consumer.Confluence
import Settlement.Proofs.Consumer.Exactness

/-!
What the events of one transaction make of its rows. The handling of a batch does this to every
transaction, whatever other events lie between, and the handling of one batch after another does
what the events of both do. So all that counts is the order of the events of each transaction.
-/

namespace Settlement

open Store (TrackedRow MigrationRow DepositRow Identified Unique Lasts findTracked findMigration
  findDeposit)

/-- What the tables say about one transaction, up to generated identifiers and times. -/
@[ext]
structure Store.Rows where
  tracked : Option TrackedRow
  migration : Option MigrationRow
  deposit : Option DepositRow

def Store.rowsOf (txHash : String) (store : Store) : Store.Rows where
  tracked := (store.tracked.find? fun row => row.txHash = txHash).map TrackedRow.core
  migration := (store.migrations.find? fun row => row.txHash = txHash).map MigrationRow.core
  deposit := (store.deposits.find? fun row => row.txHash = txHash).map DepositRow.core

def Chain.eventsOf (txHash : String) (events : List Chain.Event) : List Chain.Event :=
  events.filter fun event => event.txHash = txHash

@[simp] theorem Chain.mem_eventsOf {txHash : String} {events : List Chain.Event}
    {event : Chain.Event} :
    event ∈ Chain.eventsOf txHash events ↔ event ∈ events ∧ event.txHash = txHash := by
  simp [Chain.eventsOf]

theorem Chain.eventsOf_append (txHash : String) (first second : List Chain.Event) :
    Chain.eventsOf txHash (first ++ second) =
      Chain.eventsOf txHash first ++ Chain.eventsOf txHash second :=
  List.filter_append first second

def Chain.Batch.only (txHash : String) (batch : Chain.Batch) : Chain.Batch :=
  { batch with events := Chain.eventsOf txHash batch.events }

section Tables

variable {row : Type} {key : row → String} {core : row → row} {before added one other : List row}

theorem find?_grown {wanted : String} {due : Option row}
    (sound : ∀ item ∈ added, key item = wanted → wanted ∉ before.map key → due = some (core item))
    (complete : ∀ item, due = some item → wanted ∉ before.map key →
      ∃ made ∈ added, key made = wanted) :
    ((before ++ added).find? fun item => key item = wanted).map core =
      ((before.find? fun item => key item = wanted).map core).or due := by
  -- The first row with a key may have been added for a reason that the key decides.
  rw [List.find?_append]
  cases old : before.find? (fun item => key item = wanted) with
  | some item => rfl
  | none =>
      have absent : wanted ∉ before.map key := by
        intro present
        obtain ⟨item, member, same⟩ := List.mem_map.mp present
        simpa [same] using List.find?_eq_none.mp old item member
      simp only [Option.none_or, Option.map_none]
      cases new : added.find? (fun item => key item = wanted) with
      | some item =>
          have same : key item = wanted := by simpa using List.find?_some new
          exact (sound item (List.mem_of_find?_eq_some new) same absent).symm
      | none =>
          cases made : due with
          | none => rfl
          | some item =>
              obtain ⟨twin, member, same⟩ := complete item made absent
              simpa [same] using List.find?_eq_none.mp new twin member

theorem find?_changed {change : row → row} {rows : List row} {wanted : String}
    (same : ∀ item ∈ rows, key (change item) = key item) :
    ((rows.map change).find? fun item => key item = wanted) =
      (rows.find? fun item => key item = wanted).map change := by
  induction rows with
  | nil => rfl
  | cons item rest ih =>
      have later := ih fun other member => same other (List.mem_cons_of_mem item member)
      simp only [List.map_cons, List.find?_cons, same item List.mem_cons_self, later]
      split <;> rfl

end Tables

namespace Consumer

variable {settings : Settings} {history : History} {batch : Chain.Batch} {start final : Store}
  {txHash : String}

def isHandled (settings : Settings) (event : Chain.Event) : Bool :=
  event.isAction settings.contract "mint" || event.isAction settings.contract "burn" ||
    event.isAction settings.contract "redeem" || event.isAction settings.contract "transfer" ||
    event.isOf settings.contract Chain.Event.migrationType

def isDeposit (settings : Settings) (event : Chain.Event) : Bool :=
  event.isAction settings.contract "transfer" && isBankBound settings event.transfer

def settledRow (history : History) (row : TrackedRow) : TrackedRow :=
  if row.isOpen then { row with
    status := Named.text (verdict (.ok (history.transaction row.txHash))).1
    message := (verdict (.ok (history.transaction row.txHash))).2 }
  else row

/-- The row that the first migration asks for. -/
def migrationDue (settings : Settings) (events : List Chain.Event) : Option MigrationRow :=
  (events.find? fun event => event.isOf settings.contract Chain.Event.migrationType).map
    fun event => migrationRow event.migration

def depositDue (settings : Settings) (events : List Chain.Event) : Option DepositRow :=
  (events.find? (isDeposit settings)).bind fun event =>
    (Height.stored? event.height).map (depositRow event.transfer)

def admits (history : History) (txHash : String) (rows : Store.Rows) : Bool :=
  rows.tracked.isNone && history.confirms txHash

/-- What the events of a transaction make of its rows. -/
def rowsAfter (settings : Settings) (history : History) (txHash : String)
    (events : List Chain.Event) (rows : Store.Rows) : Store.Rows where
  tracked :=
    if events.any (isHandled settings) then rows.tracked.map (settledRow history)
    else rows.tracked
  migration :=
    rows.migration.or (if admits history txHash rows then migrationDue settings events else none)
  deposit :=
    rows.deposit.or (if admits history txHash rows then depositDue settings events else none)

section Streams

variable (settings : Settings) (batch : Chain.Batch) (txHash : String)

theorem first_migration : (batch.migrations settings.contract).find?
      (fun migration => migration.txHash = txHash) =
    ((Chain.eventsOf txHash batch.events).find? fun event =>
      event.isOf settings.contract Chain.Event.migrationType).map Chain.Event.migration := by
  have same : ∀ event : Chain.Event, event.migration.txHash = event.txHash := fun _ => rfl
  simp only [Chain.Batch.migrations, Chain.eventsOf, List.find?_map, List.find?_filter,
    Function.comp_def, same]
  congr 2
  funext event
  simp only [decide_eq_true_eq, and_comm]

theorem first_deposit : (batch.transfers settings.contract).find?
      (fun transfer => isBankBound settings transfer && transfer.txHash = txHash) =
    ((Chain.eventsOf txHash batch.events).find? (isDeposit settings)).map
      Chain.Event.transfer := by
  have same : ∀ event : Chain.Event, event.transfer.txHash = event.txHash := fun _ => rfl
  simp only [Chain.Batch.transfers, Chain.Batch.actions, Chain.eventsOf, List.find?_map,
    List.find?_filter, Function.comp_def, same, isDeposit]
  congr 2
  funext event
  simp [Bool.and_comm, Bool.and_left_comm]

theorem mem_hashes : txHash ∈ batch.hashes settings.contract ↔
    (Chain.eventsOf txHash batch.events).any (isHandled settings) = true := by
  have views : ∀ {view : Type} (kind : Chain.Event → Bool) (make : Chain.Event → view)
      (hash : view → String), (∀ event, hash (make event) = event.txHash) →
      (txHash ∈ ((batch.events.filter kind).map make).map hash ↔
        ∃ event ∈ batch.events, kind event = true ∧ event.txHash = txHash) := by
    intro view kind make hash same
    simp [same, and_assoc]
  simp only [Chain.Batch.hashes, Chain.Batch.mints, Chain.Batch.burns, Chain.Batch.redemptions,
    Chain.Batch.transfers, Chain.Batch.migrations, Chain.Batch.actions, List.mem_append,
    views _ Chain.Event.mint Chain.Mint.txHash fun _ => rfl,
    views _ Chain.Event.burn Chain.Burn.txHash fun _ => rfl,
    views _ Chain.Event.redemption Chain.Redemption.txHash fun _ => rfl,
    views _ Chain.Event.transfer Chain.Transfer.txHash fun _ => rfl,
    views _ Chain.Event.migration Chain.Migration.txHash fun _ => rfl,
    Chain.eventsOf, List.any_eq_true, List.mem_filter, decide_eq_true_eq, isHandled,
    Bool.or_eq_true]
  grind

end Streams

theorem settledRow_settledRow (history : History) (row : TrackedRow) :
    settledRow history (settledRow history row) = settledRow history row := by
  by_cases live : row.isOpen = true
  · have closed : (settledRow history row).isOpen = false := by
      rw [settledRow, if_pos live]
      exact TrackedRow.not_isOpen (verdict_terminal _) rfl
    rw [settledRow, closed]
    rfl
  · simp [settledRow, live]

/-- Later events add nothing to what earlier ones have brought about. -/
theorem rowsAfter_append {first second : List Chain.Event} (rows : Store.Rows)
    (fits : ∀ event ∈ first, Height.stored? event.height ≠ none) :
    rowsAfter settings history txHash (first ++ second) rows =
      rowsAfter settings history txHash second
        (rowsAfter settings history txHash first rows) := by
  have still : admits history txHash (rowsAfter settings history txHash first rows) =
      admits history txHash rows := by
    simp only [admits, rowsAfter]
    split <;> simp
  ext1
  · simp only [rowsAfter, List.any_append]
    cases first.any (isHandled settings) <;> cases second.any (isHandled settings) <;>
      simp [Function.comp_def, settledRow_settledRow]
  · change rows.migration.or _ = (rows.migration.or _).or _
    rw [still, migrationDue, List.find?_append, Option.or_assoc]
    split <;> simp [migrationDue, Option.map_or]
  · change rows.deposit.or _ = (rows.deposit.or _).or _
    rw [still, depositDue, List.find?_append, Option.or_assoc]
    split
    · cases found : first.find? (isDeposit settings) with
      | none => simp [depositDue, found]
      | some event =>
          obtain ⟨height, stored⟩ :=
            Option.ne_none_iff_exists'.mp (fits event (List.mem_of_find?_eq_some found))
          simp [depositDue, found, stored]
    · simp

section Follows

variable (follows : Follows settings (fun txHash => .ok (history.transaction txHash)) history batch
  start True final)

theorem admits_rowsOf : admits history txHash (start.rowsOf txHash) = true ↔
    txHash ∉ start.tracked.map TrackedRow.txHash ∧ history.confirms txHash = true := by
  simp [admits, Store.rowsOf]

include follows

theorem Follows.rowsOf_tracked : (final.rowsOf txHash).tracked =
    (rowsAfter settings history txHash (Chain.eventsOf txHash batch.events)
      (start.rowsOf txHash)).tracked := by
  obtain ⟨change, changed, rows⟩ := follows.tracked
  have hash : ∀ row ∈ start.tracked, (change row).txHash = row.txHash := by
    intro row member
    rcases rows row member with ⟨same, _⟩ | ⟨_, now, settled⟩
    · rw [same]
    · rw [settled]
  simp only [Store.rowsOf, rowsAfter, changed, find?_changed hash]
  cases found : start.tracked.find? (fun row => row.txHash = txHash) with
  | none => simp
  | some row =>
      have same : row.txHash = txHash := by simpa using List.find?_some found
      subst same
      have handled := mem_hashes settings batch row.txHash
      simp only [Option.map_some]
      have member := List.mem_of_find?_eq_some found
      rcases rows row member with ⟨kept, idle⟩ | ⟨⟨live, seen⟩, now, made⟩
      · rw [kept]
        split
        · rename_i mentioned
          have closed : row.core.isOpen = false := by
            cases live : row.isOpen with
            | false => exact live
            | true => exact (idle trivial ⟨live, handled.mpr mentioned⟩).elim
          rw [settledRow, closed]
          rfl
        · rfl
      · have live : row.core.isOpen = true := live
        rw [if_pos (handled.mp seen), made, settledRow, if_pos live]
        rfl

theorem Follows.rowsOf_migration : (final.rowsOf txHash).migration =
    (rowsAfter settings history txHash (Chain.eventsOf txHash batch.events)
      (start.rowsOf txHash)).migration := by
  obtain ⟨added, grown, _, sound, complete⟩ := follows.migrations
  change (final.migrations.find? _).map _ = ((start.migrations.find? _).map _).or _
  rw [grown]
  -- An added row is due, and what is due and absent was added.
  refine find?_grown ?_ ?_
  · rintro row member rfl absent
    obtain ⟨migration, ⟨untracked, _, confirmed, found⟩, made⟩ := sound row member
    have same : migration.txHash = row.txHash := (congrArg MigrationRow.txHash made).symm
    rw [same] at untracked confirmed found
    rw [first_migration, Option.map_eq_some_iff] at found
    obtain ⟨event, found, rfl⟩ := found
    rw [if_pos (admits_rowsOf.mpr ⟨untracked, confirmed⟩), migrationDue, found, made]
    rfl
  · intro item due absent
    split at due
    · rename_i admitted
      obtain ⟨untracked, confirmed⟩ := admits_rowsOf.mp admitted
      obtain ⟨event, found, rfl⟩ := Option.map_eq_some_iff.mp due
      have same : event.txHash = txHash :=
        (Chain.mem_eventsOf.mp (List.mem_of_find?_eq_some found)).2
      have first : (batch.migrations settings.contract).find?
          (fun other => other.txHash = txHash) = some event.migration := by
        rw [first_migration, found]
        rfl
      subst same
      obtain ⟨row, member, made⟩ := List.mem_map.mp (complete trivial event.migration
        ⟨untracked, absent, confirmed, first⟩)
      exact ⟨row, member, congrArg MigrationRow.txHash made⟩
    · cases due

theorem Follows.rowsOf_deposit : (final.rowsOf txHash).deposit =
    (rowsAfter settings history txHash (Chain.eventsOf txHash batch.events)
      (start.rowsOf txHash)).deposit := by
  obtain ⟨added, grown, _, sound, complete⟩ := follows.deposits
  change (final.deposits.find? _).map _ = ((start.deposits.find? _).map _).or _
  rw [grown]
  refine find?_grown ?_ ?_
  · rintro row member rfl absent
    obtain ⟨transfer, height, ⟨untracked, _, confirmed, found⟩, stored, made⟩ := sound row member
    have same : transfer.txHash = row.txHash := (congrArg DepositRow.txHash made).symm
    rw [same] at untracked confirmed found
    rw [first_deposit, Option.map_eq_some_iff] at found
    obtain ⟨event, found, rfl⟩ := found
    have stored : Height.stored? event.height = some height := stored
    rw [if_pos (admits_rowsOf.mpr ⟨untracked, confirmed⟩), depositDue, found, Option.bind_some,
      stored, made]
    rfl
  · intro item due absent
    split at due
    · rename_i admitted
      obtain ⟨untracked, confirmed⟩ := admits_rowsOf.mp admitted
      obtain ⟨event, found, _⟩ := Option.bind_eq_some_iff.mp due
      have same : event.txHash = txHash :=
        (Chain.mem_eventsOf.mp (List.mem_of_find?_eq_some found)).2
      have first : (batch.transfers settings.contract).find?
          (fun other => isBankBound settings other && other.txHash = txHash) =
            some event.transfer := by
        rw [first_deposit, found]
        rfl
      subst same
      obtain ⟨height, _, made⟩ := complete trivial event.transfer
        ⟨untracked, absent, confirmed, first⟩
      obtain ⟨row, member, made⟩ := List.mem_map.mp made
      exact ⟨row, member, congrArg DepositRow.txHash made⟩
    · cases due

theorem Follows.rowsOf : final.rowsOf txHash = rowsAfter settings history txHash
    (Chain.eventsOf txHash batch.events) (start.rowsOf txHash) :=
  Store.Rows.ext follows.rowsOf_tracked follows.rowsOf_migration follows.rowsOf_deposit

end Follows

end Consumer

end Settlement
