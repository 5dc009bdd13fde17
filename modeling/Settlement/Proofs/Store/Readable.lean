import Settlement.Proofs.Time.Written
import Settlement.Proofs.Uuid.Text
import Settlement.Store.Statement

/-!
Tables that the program has written can be read: every column that a statement writes is the
written form of a value, so no statement fails on readable rows and all leave them readable.
-/

namespace Settlement

theorem Named.ofText?_deposit (status : DepositStatus) : ofText? (text status) = some status := by
  cases status <;> rfl

theorem Named.ofText?_tx (status : TxStatus) : ofText? (text status) = some status := by
  cases status <;> rfl

theorem Named.ofText?_movement (kind : MovementKind) : ofText? (text kind) = some kind := by
  cases kind <;> rfl

namespace Store

def Succeeds {α : Type} (result : Except Fault α) : Prop := ∃ value, result = .ok value

section Succeeds

variable {α β : Type}

theorem succeeds_bind {result : Except Fault α} {next : α → Except Fault β} :
    Succeeds (result >>= next) ↔ ∃ value, result = .ok value ∧ Succeeds (next value) := by
  cases result with
  | ok value => simp [Bind.bind, Except.bind]
  | error fault => simp [Bind.bind, Except.bind, Succeeds]

theorem bind_ok {ε : Type} {result : Except ε α} {next : α → Except ε β} {value : β} :
    (result >>= next) = .ok value ↔ ∃ middle, result = .ok middle ∧ next middle = .ok value := by
  cases result with
  | ok middle => simp [Bind.bind, Except.bind]
  | error failure => simp [Bind.bind, Except.bind]

theorem succeeds_pure (value : α) : Succeeds (pure value) := ⟨value, rfl⟩

theorem succeeds_mapM {read : α → Except Fault β} {rows : List α}
    (each : ∀ row ∈ rows, Succeeds (read row)) : Succeeds (rows.mapM read) := by
  induction rows with
  | nil => exact ⟨[], rfl⟩
  | cons row rest ih =>
      obtain ⟨value, first⟩ := each row List.mem_cons_self
      obtain ⟨values, others⟩ := ih fun row member => each row (List.mem_cons_of_mem _ member)
      exact ⟨value :: values, by simp only [List.mapM_cons, first, others]; rfl⟩

theorem succeeds_optional {read : α → Except Fault β} {found : Option α}
    (each : ∀ row ∈ found, Succeeds (read row)) : Succeeds (readOptional read found) := by
  cases found with
  | none => exact ⟨none, rfl⟩
  | some row =>
      obtain ⟨value, reading⟩ := each row rfl
      exact ⟨some value, by rw [readOptional, reading]; rfl⟩

theorem readId_text (column : String) (id : Uuid) : readId column id.text = .ok id := by
  rw [readId, Uuid.ofText?_text]
  rfl

theorem readId_ok {column text : String} {id : Uuid} :
    readId column text = .ok id ↔ Uuid.ofText? text = some id := by
  unfold readId
  cases Uuid.ofText? text <;> simp

theorem readName_ok {column text : String} [Named α] {value : α}
    (reads : readName column text = .ok value) : text = Named.text value := by
  unfold readName at reads
  cases named : (Named.ofText? text : Option α) with
  | none => simp [named] at reads
  | some other =>
      have found := List.find?_some named
      rw [decide_eq_true_eq] at found
      simp only [named, Option.elim_some, Except.ok.injEq] at reads
      rw [← reads, found]

theorem readTime_stored (column : String) (time : Timestamp) :
    readTime column time.stored = .ok time := by
  rw [readTime, Time.ofColumn?_stored]
  rfl

end Succeeds

theorem Cursor.read_row (cursor : Cursor) : cursor.row.read = .ok cursor := by
  simp only [CursorRow.read, Cursor.row, readId_text, readNumber, readTime_stored]
  rfl

theorem Deposit.read_row (deposit : Deposit) : deposit.row.read = .ok deposit := by
  simp only [DepositRow.read, Deposit.row, readId_text, readNumber, readTime_stored, readName,
    Named.ofText?_deposit]
  rfl

theorem Migration.read_row (migration : Migration) : migration.row.read = .ok migration := by
  obtain ⟨id, codeId, txHash, sent, created⟩ := migration
  cases sent <;> simp only [MigrationRow.read, Migration.row, readId_text, readTime_stored,
    Option.map_none, Option.map_some, readOptional] <;> rfl

theorem Movement.read_row (movement : Movement) (created : Timestamp) :
    (movement.row created).read = .ok movement := by
  obtain ⟨key, legacyHash, fromAddress, fromBank, toAddress, toBank, height, time, amount, denom,
    kind⟩ := movement
  cases fromBank <;> cases toBank <;> simp only [MovementRow.read, Movement.row, readId_text,
    readTime_stored, readNumber, readName, Named.ofText?_movement, Option.map_none,
    Option.map_some, readOptional] <;> rfl

theorem DepositRow.read_ok (row : DepositRow) {deposit : Deposit}
    (reads : row.read = .ok deposit) :
    Uuid.ofText? row.id = some deposit.id ∧ row.txHash = deposit.txHash ∧
      row.fromAddress = deposit.fromAddress ∧ row.amount = deposit.amount ∧
      row.status = Named.text deposit.status := by
  simp only [DepositRow.read, bind_ok] at reads
  obtain ⟨id, readsId, height, _, status, readsStatus, _, _, _, _, made⟩ := reads
  cases made
  exact ⟨readId_ok.mp readsId, rfl, rfl, rfl, readName_ok readsStatus⟩

theorem RegistrationRow.read_ok (row : RegistrationRow) {registration : Registration}
    (reads : row.read = .ok registration) :
    row.address = registration.address ∧ row.active = registration.active := by
  simp only [RegistrationRow.read, bind_ok] at reads
  obtain ⟨id, _, account, _, created, _, made⟩ := reads
  cases made
  exact ⟨rfl, rfl⟩

theorem TrackedRow.read_ok (row : TrackedRow) {tracked : Tracked}
    (reads : row.read = .ok tracked) :
    Uuid.ofText? row.id = some tracked.id ∧ row.txHash = tracked.txHash ∧
      row.status = Named.text tracked.status := by
  simp only [TrackedRow.read, bind_ok] at reads
  obtain ⟨id, readsId, kind, _, status, readsStatus, _, _, _, _, made⟩ := reads
  cases made
  exact ⟨readId_ok.mp readsId, rfl, readName_ok readsStatus⟩

structure Readable (store : Store) : Prop where
  cursors : ∀ row ∈ store.cursors, Succeeds row.read
  tracked : ∀ row ∈ store.tracked, Succeeds row.read
  deposits : ∀ row ∈ store.deposits, Succeeds row.read
  migrations : ∀ row ∈ store.migrations, Succeeds row.read
  movements : ∀ row ∈ store.movements, Succeeds row.read
  registrations : ∀ row ∈ store.registrations, Succeeds row.read

section Rows

variable {row value : Type} {read : row → Except Fault value} {rows : List row}

theorem succeeds_find (each : ∀ row ∈ rows, Succeeds (read row)) (matches? : row → Bool) :
    Succeeds (readOptional read (rows.find? matches?)) :=
  succeeds_optional fun _ found => each _ (List.mem_of_find?_eq_some found)

theorem succeeds_added (each : ∀ row ∈ rows, Succeeds (read row)) {added : row}
    (last : Succeeds (read added)) : ∀ row ∈ rows ++ [added], Succeeds (read row) := by
  intro row member
  rcases List.mem_append.mp member with earlier | new
  · exact each row earlier
  · rw [List.mem_singleton.mp new]
    exact last

theorem succeeds_map (each : ∀ row ∈ rows, Succeeds (read row)) {change : row → row}
    (keeps : ∀ row, Succeeds (read row) → Succeeds (read (change row))) :
    ∀ row ∈ rows.map change, Succeeds (read row) := by
  intro row member
  obtain ⟨before, earlier, rfl⟩ := List.mem_map.mp member
  exact keeps before (each before earlier)

end Rows

theorem CursorRow.succeeds_moved (row : CursorRow) (height : Int) (now : Timestamp)
    (reads : Succeeds row.read) :
    Succeeds { row with height := .number height, updated := now.stored }.read := by
  simp only [CursorRow.read, succeeds_bind] at reads ⊢
  obtain ⟨stream, readsStream, _, _, created, readsCreated, _⟩ := reads
  exact ⟨stream, readsStream, height, rfl, created, readsCreated, now,
    readTime_stored "updated" now, succeeds_pure _⟩

theorem TrackedRow.succeeds_settled (row : TrackedRow) (status : TxStatus)
    (message : Option String) (now : Timestamp) (reads : Succeeds row.read) :
    Succeeds { row with status := Named.text status, message, updated := now.stored }.read := by
  have readsStatus : readName "status" (Named.text status) = .ok status := by
    rw [readName, Named.ofText?_tx]
    rfl
  simp only [TrackedRow.read, succeeds_bind] at reads ⊢
  obtain ⟨id, readsId, kind, readsKind, _, _, created, readsCreated, _⟩ := reads
  exact ⟨id, readsId, kind, readsKind, status, readsStatus, created, readsCreated, now,
    readTime_stored "updated" now, succeeds_pure _⟩

theorem DepositRow.succeeds_advanced (row : DepositRow) (status : DepositStatus)
    (limit : Option Cell) (now : Timestamp) (reads : Succeeds row.read) :
    Succeeds { row with
      status := Named.text status, claimedUntil := limit, updated := now.stored }.read := by
  have readsStatus : readName "status" (Named.text status) = .ok status := by
    rw [readName, Named.ofText?_deposit]
    rfl
  simp only [DepositRow.read, succeeds_bind] at reads ⊢
  obtain ⟨id, readsId, height, readsHeight, _, _, created, readsCreated, _⟩ := reads
  exact ⟨id, readsId, height, readsHeight, status, readsStatus, created, readsCreated, now,
    readTime_stored "updated" now, succeeds_pure _⟩

theorem newest_mem {rows : List RegistrationRow} {row : RegistrationRow}
    (found : newest rows = some row) : row ∈ rows := by
  induction rows generalizing row with
  | nil => cases found
  | cons first rest ih =>
      unfold newest at found
      split at found
      · cases found
        exact List.mem_cons_self
      · rename_i other latest
        split at found <;> cases found
        · exact List.mem_cons_of_mem _ (ih latest)
        · exact List.mem_cons_self

theorem succeeds_newest {rows : List RegistrationRow} (each : ∀ row ∈ rows, Succeeds row.read)
    (chosen : RegistrationRow → Bool) :
    Succeeds (readOptional RegistrationRow.read (newest (rows.filter chosen))) :=
  succeeds_optional fun _ found => each _ (List.mem_filter.mp (newest_mem found)).1

section Movements

variable {rows after : List MovementRow} {row : MovementRow} {now : Nat → Timestamp}
  {entries : List Entry} {count : Nat}

theorem addMovement_taken (taken : row.key ∈ rows.map (·.key)) : addMovement rows row = none :=
  if_pos (by simpa using taken)

theorem addMovement_free (free : row.key ∉ rows.map (·.key)) :
    addMovement rows row = some (rows ++ [row]) :=
  if_neg (by simpa using free)

theorem addMovement_some_iff : addMovement rows row = some after ↔
    row.key ∉ rows.map (·.key) ∧ after = rows ++ [row] := by
  by_cases taken : row.key ∈ rows.map (·.key)
  · simp [addMovement_taken taken, taken]
  · simp only [addMovement_free taken, Option.some.injEq, taken, not_false_eq_true, true_and,
      eq_comm]

theorem appendEntries_keeps (Holds : List MovementRow → Prop)
    (inserts : ∀ {entry : Entry} {movement : Movement} {rows after : List MovementRow}
      {time : Timestamp}, entry.movement? = some movement →
      addMovement rows (movement.row time) = some after → Holds rows → Holds after)
    (appended : appendEntries now entries rows = some (count, after)) (holds : Holds rows) :
    Holds after := by
  induction entries generalizing now rows count with
  | nil =>
      cases appended
      exact holds
  | cons entry rest ih =>
      obtain ⟨movement, made, tail⟩ := Option.bind_eq_some_iff.mp appended
      cases inserted : addMovement rows (movement.row (now 0)) with
      | none =>
          rw [inserted] at tail
          exact ih tail holds
      | some grown =>
          rw [inserted] at tail
          obtain ⟨⟨_, final⟩, appended, same⟩ := Option.map_eq_some_iff.mp tail
          cases same
          exact ih appended (inserts made inserted holds)

theorem appendEntries_readable (each : ∀ row ∈ rows, Succeeds row.read)
    (appended : appendEntries now entries rows = some (count, after)) :
    ∀ row ∈ after, Succeeds row.read := by
  refine appendEntries_keeps (fun rows => ∀ row ∈ rows, Succeeds row.read) ?_ appended each
  intro entry movement rows after time _ inserted each
  obtain ⟨_, rfl⟩ := addMovement_some_iff.mp inserted
  exact succeeds_added each ⟨movement, movement.read_row time⟩

end Movements

namespace Readable

variable {store : Store} (readable : Readable store)

include readable

theorem settle (txHash : String) (status : TxStatus) (message : Option String)
    (now : Timestamp) : ∃ rows, Store.settle store.tracked txHash status message now = .ok rows ∧
      ∀ row ∈ rows, Succeeds row.read := by
  obtain ⟨found, reading⟩ := succeeds_find readable.tracked fun row => row.txHash = txHash
  cases found with
  | none => exact ⟨store.tracked, by rw [Store.settle, findTracked, reading]; rfl, readable.tracked⟩
  | some tracked =>
      by_cases terminal : tracked.status.isTerminal = true
      · refine ⟨store.tracked, ?_, readable.tracked⟩
        rw [Store.settle, findTracked, reading]
        exact if_pos terminal
      · refine ⟨setStatus store.tracked tracked.id status message now, ?_, ?_⟩
        · rw [Store.settle, findTracked, reading]
          exact if_neg terminal
        · refine succeeds_map readable.tracked fun row reads => ?_
          split
          · exact row.succeeds_settled status message now reads
          · exact reads

theorem pendingIds (now : Int) : Succeeds (Store.pendingIds store.deposits now) := by
  refine succeeds_mapM fun row member => ?_
  have listed := (List.mergeSort_perm _ _).mem_iff.mp member
  have reads := readable.deposits row (List.mem_filter.mp listed).1
  rw [DepositRow.read, succeeds_bind] at reads
  obtain ⟨id, readsId, _⟩ := reads
  exact ⟨id, readsId⟩

theorem list (first last : Option Timestamp) (offset limit : Int) :
    Succeeds (Store.list store.movements first last offset limit) := by
  refine succeeds_mapM fun row member => succeeds_bind.mpr ?_
  have sorted : row ∈ (store.movements.filter (MovementRow.inWindow first last)).mergeSort
      MovementRow.before := by
    unfold listedRows cut at member
    split at member
    · exact List.mem_of_mem_drop member
    · exact List.mem_of_mem_drop (List.mem_of_mem_take member)
  have listed := (List.mergeSort_perm _ _).mem_iff.mp sorted
  obtain ⟨movement, reads⟩ := readable.movements row (List.mem_filter.mp listed).1
  exact ⟨movement, reads, succeeds_pure _⟩

theorem registration (chosen : RegistrationRow → Bool) :
    Succeeds (readOptional RegistrationRow.read (newest (store.registrations.filter chosen))) :=
  succeeds_newest readable.registrations chosen

end Readable

/-- No statement fails on readable tables, and every statement leaves them readable. -/
theorem Statement.run_readable (statement : Statement) {store : Store}
    (readable : Readable store) :
    Succeeds (statement.run store).1 ∧ Readable (statement.run store).2 := by
  -- A write keeps a row readable, as it puts only such cells in place as can be read.
  cases statement with
  | cursor stream => exact ⟨succeeds_find readable.cursors _, readable⟩
  | addCursor stream height now =>
      refine ⟨⟨(), rfl⟩, { readable with cursors := ?_ }⟩
      simp only [run, Store.addCursor]
      split
      · exact readable.cursors
      · exact succeeds_added readable.cursors ⟨_, Cursor.read_row _⟩
  | moveCursor stream height now =>
      refine ⟨⟨(), rfl⟩, { readable with cursors := ?_ }⟩
      refine succeeds_map readable.cursors fun row reads => ?_
      split
      · exact row.succeeds_moved height now reads
      · exact reads
  | tracked txHash => exact ⟨succeeds_find readable.tracked _, readable⟩
  | settle txHash status message now =>
      obtain ⟨rows, settled, reads⟩ := readable.settle txHash status message now
      simp only [run, settled]
      exact ⟨⟨(), rfl⟩, { readable with tracked := reads }⟩
  | deposit txHash => exact ⟨succeeds_find readable.deposits _, readable⟩
  | addDeposit record =>
      simp only [run, Store.addDeposit]
      by_cases taken : store.deposits.any (fun other =>
        other.id = record.row.id ∨ other.txHash = record.row.txHash) = true
      · rw [if_pos taken]
        exact ⟨⟨false, rfl⟩, readable⟩
      · rw [if_neg taken]
        exact ⟨⟨true, rfl⟩, { readable with
          deposits := succeeds_added readable.deposits ⟨record, record.read_row⟩ }⟩
  | pending now => exact ⟨readable.pendingIds now, readable⟩
  | claim id now limit =>
      refine ⟨succeeds_find readable.deposits _, { readable with deposits := ?_ }⟩
      refine succeeds_map readable.deposits fun row reads => ?_
      split <;> exact reads
  | advance id source target now =>
      refine ⟨⟨_, rfl⟩, { readable with deposits := ?_ }⟩
      refine succeeds_map readable.deposits fun row reads => ?_
      split
      · exact row.succeeds_advanced target none now reads
      · exact reads
  | release id =>
      refine ⟨⟨(), rfl⟩, { readable with deposits := ?_ }⟩
      refine succeeds_map readable.deposits fun row reads => ?_
      split <;> exact reads
  | migration txHash => exact ⟨succeeds_find readable.migrations _, readable⟩
  | addMigration record =>
      simp only [run, Store.addMigration]
      by_cases taken : store.migrations.any (fun other =>
        other.id = record.row.id ∨ other.txHash = record.row.txHash) = true
      · rw [if_pos taken]
        exact ⟨⟨false, rfl⟩, readable⟩
      · rw [if_neg taken]
        exact ⟨⟨true, rfl⟩, { readable with
          migrations := succeeds_added readable.migrations ⟨record, record.read_row⟩ }⟩
  | append entries now =>
      simp only [run]
      cases appended : appendEntries now entries store.movements with
      | none => exact ⟨⟨none, rfl⟩, readable⟩
      | some added => exact ⟨⟨some added.1, rfl⟩, { readable with
          movements := appendEntries_readable readable.movements appended }⟩
  | list first last offset limit => exact ⟨readable.list first last offset limit, readable⟩
  | registration address => exact ⟨readable.registration _, readable⟩
  | activeRegistration address => exact ⟨readable.registration _, readable⟩

end Store

end Settlement
