import Settlement.Proofs.Consumer.Reference
import Settlement.Store.Statement

/-!
What a statement does to the tables: which ones only read, what an insert adds, and what
all others leave alone. A lookup by hash finds nothing exactly if no row has the hash.
-/

namespace Settlement

theorem Height.next?_shown {height : Nat} (fits : height ≤ Text.Decimal.maxSigned) :
    next? (shown height) = some (height + 1) := by
  have small : height < Text.Decimal.maxUnsigned :=
    Nat.lt_of_le_of_lt fits (by decide)
  have shown : shown height = height := by
    unfold shown
    unfold Text.Decimal.maxUnsigned at small
    omega
  rw [shown, next?, if_pos small]

namespace Store

def Statement.IsFresh : Statement → Store → Prop
  | .addDeposit record, store => ∀ row ∈ store.deposits, row.id ≠ record.id.text
  | .addMigration record, store => ∀ row ∈ store.migrations, row.id ≠ record.id.text
  | _, _ => True

def Statement.isRead : Statement → Bool
  | .cursor _ | .tracked _ | .deposit _ | .pending _ | .migration _ | .list .. |
    .registration _ | .activeRegistration _ => true
  | _ => false

theorem Statement.run_read {statement : Statement} (read : statement.isRead = true)
    (store : Store) : (statement.run store).2 = store := by
  cases statement <;> first | rfl | cases read

section Lookup

variable {row value : Type} {read : row → Except Fault value} {rows : List row}
  {matches? : row → Bool}

theorem readOptional_none (found : readOptional read (rows.find? matches?) = .ok none) :
    ∀ row ∈ rows, matches? row = false := by
  intro row member
  cases hit : rows.find? matches? with
  | none => simpa using List.find?_eq_none.mp hit row member
  | some other =>
      rw [hit] at found
      cases reading : read other <;> simp [readOptional, reading, Except.map] at found

theorem readOptional_some {record : value}
    (found : readOptional read (rows.find? matches?) = .ok (some record)) :
    ∃ row, rows.find? matches? = some row ∧ read row = .ok record := by
  cases hit : rows.find? matches? with
  | none =>
      rw [hit] at found
      cases found
  | some row =>
      rw [hit] at found
      refine ⟨row, rfl, ?_⟩
      cases reading : read row <;> simp_all [readOptional, Except.map]

theorem readOptional_mem {key : row → String} {record : value} {wanted : String}
    (found : readOptional read (rows.find? fun row => key row = wanted) = .ok (some record)) :
    wanted ∈ rows.map key := by
  obtain ⟨row, hit, _⟩ := readOptional_some found
  have same := List.find?_some hit
  rw [decide_eq_true_eq] at same
  exact List.mem_map.mpr ⟨row, List.mem_of_find?_eq_some hit, same⟩

end Lookup

theorem Cell.natural_inj {first second : Nat} (same : Cell.number first = .number second) :
    first = second := by
  have equal := Cell.number.inj same
  omega

def cursorCell (store : Store) (stream : Uuid) : Option Cell :=
  (store.cursors.find? fun row => row.stream = stream.text).map CursorRow.height

theorem cursorCell_none {store : Store} {stream : Uuid}
    (found : findCursor store.cursors stream = .ok none) : store.cursorCell stream = none := by
  rw [cursorCell, List.find?_eq_none.mpr, Option.map_none]
  intro row member
  simpa using readOptional_none found row member

theorem cursorCell_some {store : Store} {stream : Uuid} {cursor : Cursor}
    (found : findCursor store.cursors stream = .ok (some cursor)) :
    store.cursorCell stream = some (.number cursor.height) := by
  obtain ⟨row, hit, reading⟩ := readOptional_some found
  rw [cursorCell, hit, Option.map_some]
  cases cell : row.height with
  | number height =>
      simp only [CursorRow.read, cell, readNumber, bind, Except.bind] at reading
      repeat' split at reading
      all_goals cases reading
      rfl
  | real value | text value =>
      simp only [CursorRow.read, cell, readNumber, bind, Except.bind] at reading
      split at reading <;> cases reading

theorem cursorCell_addCursor {store : Store} {stream : Uuid} (height : Int) (now : Timestamp)
    (absent : store.cursorCell stream = none) :
    cursorCell ((Statement.addCursor stream height now).run store).2 stream =
      some (.number height) := by
  have none : store.cursors.find? (fun row => row.stream = stream.text) = none :=
    Option.map_eq_none_iff.mp absent
  have free : (store.cursors.any fun row => row.stream = stream.text) = false := by
    rw [List.any_eq_false]
    exact fun row member => List.find?_eq_none.mp none row member
  simp [cursorCell, Statement.run, addCursor, free, List.find?_append, none, Cursor.row]

theorem cursorCell_moveCursor {store : Store} {stream : Uuid} {cell : Cell} (height : Int)
    (now : Timestamp) (stored : store.cursorCell stream = some cell) :
    cursorCell ((Statement.moveCursor stream height now).run store).2 stream =
      some (.number height) := by
  obtain ⟨row, hit, _⟩ := Option.map_eq_some_iff.mp stored
  have same : ∀ row : CursorRow, (if row.stream = stream.text then
      { row with height := Cell.number height, updated := now.stored } else row).stream =
      row.stream := by
    intro row
    split <;> rfl
  have found := List.find?_some hit
  rw [decide_eq_true_eq] at found
  simp only [cursorCell, Statement.run, moveCursor, List.find?_map, Function.comp_def, same, hit,
    Option.map_some, found, if_true]

def Statement.writesCursor : Statement → Bool
  | .addCursor .. | .moveCursor .. => true
  | _ => false

theorem cursorCell_run {statement : Statement} (other : statement.writesCursor = false)
    (store : Store) (stream : Uuid) :
    cursorCell (statement.run store).2 stream = store.cursorCell stream := by
  have kept : (statement.run store).2.cursors = store.cursors := by
    cases statement <;> first
      | rfl
      | (simp only [Statement.run]; split <;> rfl)
      | cases other
  rw [cursorCell, kept]
  rfl

/-- The same cursors, registrations and tracked hashes. -/
structure Framed (before after : Store) : Prop where
  cursors : after.cursors = before.cursors
  registrations : after.registrations = before.registrations
  tracked : after.tracked.map (·.txHash) = before.tracked.map (·.txHash)

theorem Framed.refl (store : Store) : Framed store store := ⟨rfl, rfl, rfl⟩

theorem Framed.trans {first second third : Store} (left : Framed first second)
    (right : Framed second third) : Framed first third :=
  ⟨right.cursors.trans left.cursors, right.registrations.trans left.registrations,
    right.tracked.trans left.tracked⟩

theorem setStatus_hashes (rows : List TrackedRow) (id : Uuid) (status : TxStatus)
    (message : Option String) (now : Timestamp) :
    (setStatus rows id status message now).map (·.txHash) = rows.map (·.txHash) := by
  unfold setStatus
  rw [List.map_map]
  apply List.map_congr_left
  intro row _
  dsimp only [Function.comp_apply]
  split <;> rfl

theorem settle_hashes {rows after : List TrackedRow} {txHash : String} {status : TxStatus}
    {message : Option String} {now : Timestamp}
    (settled : settle rows txHash status message now = .ok after) :
    after.map (·.txHash) = rows.map (·.txHash) := by
  unfold settle at settled
  cases found : findTracked rows txHash with
  | error fault => simp [found, bind, Except.bind] at settled
  | ok tracked =>
      simp only [found, bind, Except.bind] at settled
      cases tracked with
      | none =>
          cases settled
          rfl
      | some tracked =>
          dsimp only at settled
          split at settled <;> cases settled
          · rfl
          · exact setStatus_hashes rows tracked.id status message now

theorem run_settle (store : Store) (txHash : String) (status : TxStatus)
    (message : Option String) (now : Timestamp) :
    Framed store ((Statement.settle txHash status message now).run store).2 ∧
      ((Statement.settle txHash status message now).run store).2.records = store.records := by
  simp only [Statement.run]
  split
  · rename_i rows settled
    exact ⟨⟨rfl, rfl, settle_hashes settled⟩, rfl⟩
  · exact ⟨.refl store, rfl⟩

theorem taken_or_free {row : Type} (id hash : row → String) (rows : List row) (added : row) :
    (∃ other ∈ rows, id other = id added ∨ hash other = hash added) ∧
      (rows.any fun other => id other = id added ∨ hash other = hash added) = true ∨
    (∀ other ∈ rows, id other ≠ id added ∧ hash other ≠ hash added) ∧
      (rows.any fun other => id other = id added ∨ hash other = hash added) = false := by
  cases taken : rows.any fun other => id other = id added ∨ hash other = hash added with
  | true => exact .inl ⟨by simpa using taken, rfl⟩
  | false => exact .inr ⟨by simpa using taken, rfl⟩

theorem run_insertMigration (record : Migration) (store : Store) :
    ((∃ row ∈ store.migrations, row.id = record.id.text ∨ row.txHash = record.txHash) ∧
      (Statement.addMigration record).run store = (.ok false, store)) ∨
    ((∀ row ∈ store.migrations, row.id ≠ record.id.text ∧ row.txHash ≠ record.txHash) ∧
      (Statement.addMigration record).run store =
        (.ok true, { store with migrations := store.migrations ++ [record.row] })) := by
  rcases taken_or_free MigrationRow.id MigrationRow.txHash store.migrations record.row with
    ⟨shared, taken⟩ | ⟨free, taken⟩
  · left
    refine ⟨shared, ?_⟩
    simp only [Statement.run, addMigration, taken, if_true]
  · right
    refine ⟨free, ?_⟩
    simp only [Statement.run, addMigration, taken, Bool.false_eq_true, if_false]

theorem run_insertDeposit (record : Deposit) (store : Store) :
    ((∃ row ∈ store.deposits, row.id = record.id.text ∨ row.txHash = record.txHash) ∧
      (Statement.addDeposit record).run store = (.ok false, store)) ∨
    ((∀ row ∈ store.deposits, row.id ≠ record.id.text ∧ row.txHash ≠ record.txHash) ∧
      (Statement.addDeposit record).run store =
        (.ok true, { store with deposits := store.deposits ++ [record.row] })) := by
  rcases taken_or_free DepositRow.id DepositRow.txHash store.deposits record.row with
    ⟨shared, taken⟩ | ⟨free, taken⟩
  · left
    refine ⟨shared, ?_⟩
    simp only [Statement.run, addDeposit, taken, if_true]
  · right
    refine ⟨free, ?_⟩
    simp only [Statement.run, addDeposit, taken, Bool.false_eq_true, if_false]

theorem run_addMigration (store : Store) (record : Migration)
    (fresh : (Statement.addMigration record).IsFresh store) :
    Framed store ((Statement.addMigration record).run store).2 ∧
      ((Statement.addMigration record).run store).2.records =
        if record.txHash ∈ store.records.migrations.map Prod.fst then store.records
        else { store.records with
          migrations := store.records.migrations ++ [(record.txHash, record.codeId)] } := by
  have hashes : store.records.migrations.map Prod.fst =
      store.migrations.map MigrationRow.txHash := List.map_map
  rw [hashes]
  rcases run_insertMigration record store with ⟨⟨row, member, same⟩, ran⟩ | ⟨free, ran⟩
  · have present : record.txHash ∈ store.migrations.map MigrationRow.txHash :=
      List.mem_map.mpr ⟨row, member, same.resolve_left (fresh row member)⟩
    rw [ran, if_pos present]
    exact ⟨.refl store, rfl⟩
  · have absent : record.txHash ∉ store.migrations.map MigrationRow.txHash := by
      intro present
      obtain ⟨row, member, same⟩ := List.mem_map.mp present
      exact (free row member).2 same
    rw [ran, if_neg absent]
    exact ⟨⟨rfl, rfl, rfl⟩, by simp [Store.records, Migration.row, MigrationRow.facts]⟩

theorem run_addDeposit (store : Store) (record : Deposit)
    (fresh : (Statement.addDeposit record).IsFresh store) :
    Framed store ((Statement.addDeposit record).run store).2 ∧
      ((Statement.addDeposit record).run store).2.records =
        if record.txHash ∈ store.records.deposits.map (·.txHash) then store.records
        else { store.records with
          deposits := store.records.deposits ++ [⟨record.txHash, record.fromAddress,
            record.toAddress, record.denom, record.amount, .number record.height⟩] } := by
  have hashes : store.records.deposits.map (·.txHash) = store.deposits.map DepositRow.txHash :=
    List.map_map
  rw [hashes]
  rcases run_insertDeposit record store with ⟨⟨row, member, same⟩, ran⟩ | ⟨free, ran⟩
  · have present : record.txHash ∈ store.deposits.map DepositRow.txHash :=
      List.mem_map.mpr ⟨row, member, same.resolve_left (fresh row member)⟩
    rw [ran, if_pos present]
    exact ⟨.refl store, rfl⟩
  · have absent : record.txHash ∉ store.deposits.map DepositRow.txHash := by
      intro present
      obtain ⟨row, member, same⟩ := List.mem_map.mp present
      exact (free row member).2 same
    rw [ran, if_neg absent]
    exact ⟨⟨rfl, rfl, rfl⟩, by simp [Store.records, Deposit.row, DepositRow.facts]⟩

theorem addMovement_facts (rows : List MovementRow) (row : MovementRow) :
    (addMovement rows row).map (·.map MovementRow.facts) =
      addMovement (rows.map MovementRow.facts) row.facts := by
  have taken : (rows.any fun other => other.key = row.key) =
      (rows.map MovementRow.facts).any fun other => other.key = row.facts.key := by
    rw [List.any_map]
    rfl
  unfold addMovement
  rw [taken]
  split <;> simp

theorem appendEntries_facts (now : Nat → Timestamp) (entries : List Entry)
    (rows : List MovementRow) : (appendEntries now entries rows).map (·.2.map MovementRow.facts) =
      appendFacts entries (rows.map MovementRow.facts) := by
  induction entries generalizing now rows with
  | nil => rfl
  | cons entry rest ih =>
      cases fits : entry.movement? with
      | none => simp [appendEntries, appendFacts, fits]
      | some movement =>
          have same := addMovement_facts rows (movement.row (now 0))
          have timeless : (movement.row (now 0)).facts = (movement.row movement.time).facts := by
            simp only [MovementRow.facts, Movement.row]
          rw [timeless] at same
          simp only [appendEntries, appendFacts, fits, Option.bind_eq_bind, Option.bind_some,
            ← same]
          cases addMovement rows (movement.row (now 0)) with
          | none => simpa using ih (fun index => now (index + 1)) rows
          | some added =>
              rw [Option.map_some, Option.getD_some, ← ih (fun index => now (index + 1)) added]
              simp only [Option.map_map]
              rfl

theorem run_append (store : Store) (entries : List Entry) (now : Nat → Timestamp) :
    match appendFacts entries store.records.movements with
    | none => (Statement.append entries now).run store = (.ok none, store)
    | some movements => ∃ count after, (Statement.append entries now).run store =
        (.ok (some count), after) ∧ Framed store after ∧
          after.records = { store.records with movements } := by
  have facts := appendEntries_facts now entries store.movements
  simp only [Statement.run, Store.records]
  rw [← facts]
  cases appendEntries now entries store.movements with
  | none => rfl
  | some appended =>
      exact ⟨appended.1, { store with movements := appended.2 }, rfl, ⟨rfl, rfl, rfl⟩, rfl⟩

end Store

/-! A stamp and a consumer for runs on given inputs. -/

def zeroStamp : Stamp := ⟨.zero, ⟨1970, 1, 1, 0, 0, 0, 0⟩, by decide⟩

def zeroTimes : Nat → Timestamp := fun _ => zeroStamp.time

def fromGenesis : Consumer.Settings := ⟨zeroStamp.id, 0, "c", "m", "d", "b"⟩

end Settlement
