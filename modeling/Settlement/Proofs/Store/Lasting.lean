import Settlement.Proofs.Ledger.Keys
import Settlement.Proofs.Store.Deposits
import Settlement.Proofs.Store.Tracking

/-!
What lasts in the tables, whatever is called. A lookup that works goes on to work and to find
a row if it found one, a terminal transaction stays as it is, and a key stays in the ledger.
-/

namespace Settlement.Store

/-- A later lookup works if the earlier one did, and finds a row if the earlier one did. -/
def StillFound {value : Type} (before after : Except Fault (Option value)) : Prop :=
  ∀ found, before = .ok found →
    ∃ later, after = .ok later ∧ (found.isSome = true → later.isSome = true)

section StillFound

variable {row value : Type} {first second third : Except Fault (Option value)}

theorem StillFound.refl (result : Except Fault (Option value)) : StillFound result result :=
  fun found same => ⟨found, same, id⟩

theorem StillFound.trans (left : StillFound first second) (right : StillFound second third) :
    StillFound first third := by
  intro found same
  obtain ⟨middle, there, still⟩ := left found same
  obtain ⟨later, finally_, yet⟩ := right middle there
  exact ⟨later, finally_, fun present => yet (still present)⟩

theorem StillFound.works (looked : Succeeds first) (still : StillFound first second)
    (fault : Fault) : second ≠ .error fault := by
  obtain ⟨found, looked⟩ := looked
  obtain ⟨later, works, _⟩ := still found looked
  intro failed
  cases works.symm.trans failed

theorem isSome_of_mem {read : row → Except Fault value} {key : row → String} {rows : List row}
    {wanted : String} {found : Option value}
    (looked : readOptional read (rows.find? fun row => key row = wanted) = .ok found)
    (member : wanted ∈ rows.map key) : found.isSome = true := by
  cases found with
  | some record => rfl
  | none =>
      obtain ⟨row, there, same⟩ := List.mem_map.mp member
      have other := readOptional_none looked row there
      simp [same] at other

theorem stillFound_grown {read : row → Except Fault value} {key : row → String}
    {change : row → row} {rows added : List row} (wanted : String)
    (same : ∀ row, key (change row) = key row)
    (keeps : ∀ row, Succeeds (read row) → Succeeds (read (change row)))
    (new : ∀ row ∈ added, Succeeds (read row)) :
    StillFound (readOptional read (rows.find? fun row => key row = wanted))
      (readOptional read ((rows.map change ++ added).find? fun row => key row = wanted)) := by
  intro found looked
  have hit : (rows.map change ++ added).find? (fun row => key row = wanted) =
      ((rows.find? fun row => key row = wanted).map change).or
        (added.find? fun row => key row = wanted) := by
    simp only [List.find?_append, List.find?_map, Function.comp_def, same]
  rw [hit]
  cases old : rows.find? (fun row => key row = wanted) with
  | some row =>
      rw [old] at looked
      obtain ⟨record, reads⟩ : Succeeds (read row) := by
        cases reads : read row with
        | ok record => exact ⟨record, rfl⟩
        | error fault => simp [readOptional, reads, Except.map] at looked
      obtain ⟨later, rereads⟩ := keeps row ⟨record, reads⟩
      exact ⟨some later, by simp [readOptional, rereads, Except.map], fun _ => rfl⟩
  | none =>
      rw [old] at looked
      cases looked
      obtain ⟨later, reads⟩ := succeeds_find new fun row => key row = wanted
      exact ⟨later, by simpa using reads, by simp⟩

end StillFound

theorem succeeds_insertMigration (record : Migration) (store : Store) :
    Succeeds ((Statement.addMigration record).run store).1 := by
  rcases run_insertMigration record store with ⟨_, ran⟩ | ⟨_, ran⟩
  · exact ⟨false, by rw [ran]⟩
  · exact ⟨true, by rw [ran]⟩

theorem succeeds_insertDeposit (record : Deposit) (store : Store) :
    Succeeds ((Statement.addDeposit record).run store).1 := by
  rcases run_insertDeposit record store with ⟨_, ran⟩ | ⟨_, ran⟩
  · exact ⟨false, by rw [ran]⟩
  · exact ⟨true, by rw [ran]⟩

theorem succeeds_append (entries : List Entry) (now : Nat → Timestamp) (store : Store) :
    Succeeds ((Statement.append entries now).run store).1 := by
  simp only [Statement.run]
  split
  · exact ⟨some _, rfl⟩
  · exact ⟨none, rfl⟩

theorem mem_insertMigration {record : Migration} {store : Store}
    (fresh : (Statement.addMigration record).IsFresh store) :
    record.txHash ∈ ((Statement.addMigration record).run store).2.migrations.map
      MigrationRow.txHash := by
  rcases run_insertMigration record store with ⟨⟨row, member, same⟩, ran⟩ | ⟨_, ran⟩
  · rw [ran]
    exact List.mem_map.mpr ⟨row, member, same.resolve_left (fresh row member)⟩
  · rw [ran]
    simp [Migration.row]

theorem mem_insertDeposit {record : Deposit} {store : Store}
    (fresh : (Statement.addDeposit record).IsFresh store) :
    record.txHash ∈ ((Statement.addDeposit record).run store).2.deposits.map
      DepositRow.txHash := by
  rcases run_insertDeposit record store with ⟨⟨row, member, same⟩, ran⟩ | ⟨_, ran⟩
  · rw [ran]
    exact List.mem_map.mpr ⟨row, member, same.resolve_left (fresh row member)⟩
  · rw [ran]
    simp [Deposit.row]

theorem revise_txHash (statement : Statement) (row : DepositRow) :
    (statement.revise row).txHash = row.txHash := by
  cases statement <;> simp only [Statement.revise] <;> first | rfl | (split <;> rfl)

theorem revise_hashes (statement : Statement) (rows : List DepositRow) :
    (rows.map statement.revise).map DepositRow.txHash = rows.map DepositRow.txHash := by
  rw [List.map_map]
  apply List.map_congr_left
  intro row _
  exact revise_txHash statement row

theorem succeeds_revise (statement : Statement) {row : DepositRow} (reads : Succeeds row.read) :
    Succeeds (statement.revise row).read := by
  unfold Statement.revise
  split
  · split <;> exact reads
  · split
    · exact row.succeeds_advanced _ none _ reads
    · exact reads
  · split <;> exact reads
  · exact reads

structure Lasts (before after : Store) : Prop where
  registrations : after.registrations = before.registrations
  columns : after.tracked.map TrackedRow.columns = before.tracked.map TrackedRow.columns
  tracked : ∀ txHash,
    StillFound (findTracked before.tracked txHash) (findTracked after.tracked txHash)
  terminal : ∀ txHash record, findTracked before.tracked txHash = .ok (some record) →
    record.status.isTerminal = true → findTracked after.tracked txHash = .ok (some record)
  migrations : ∀ txHash,
    StillFound (findMigration before.migrations txHash) (findMigration after.migrations txHash)
  deposits : ∀ txHash,
    StillFound (findDeposit before.deposits txHash) (findDeposit after.deposits txHash)
  movements : ∀ key ∈ before.movements.map (·.key), key ∈ after.movements.map (·.key)

namespace Lasts

variable {before after store first second third : Store}

theorem refl (store : Store) : Lasts store store where
  registrations := rfl
  columns := rfl
  tracked _ := .refl _
  terminal _ _ found _ := found
  migrations _ := .refl _
  deposits _ := .refl _
  movements _ present := present

theorem trans (left : Lasts first second) (right : Lasts second third) : Lasts first third where
  registrations := right.registrations.trans left.registrations
  columns := right.columns.trans left.columns
  tracked txHash := (left.tracked txHash).trans (right.tracked txHash)
  terminal txHash record found settled :=
    right.terminal txHash record (left.terminal txHash record found settled) settled
  migrations txHash := (left.migrations txHash).trans (right.migrations txHash)
  deposits txHash := (left.deposits txHash).trans (right.deposits txHash)
  movements key present := right.movements key (left.movements key present)

theorem hashes (lasts : Lasts before after) :
    after.tracked.map TrackedRow.txHash = before.tracked.map TrackedRow.txHash := by
  have seconds := congrArg (List.map fun columns => columns.2.1) lasts.columns
  rwa [List.map_map, List.map_map] at seconds

theorem untracked (lasts : Lasts before after) {txHash : String}
    (absent : findTracked before.tracked txHash = .ok none) :
    findTracked after.tracked txHash = .ok none := by
  have missing := readOptional_none absent
  have none : after.tracked.find? (fun row => row.txHash = txHash) = none := by
    apply List.find?_eq_none.mpr
    intro row member
    have there := List.mem_map_of_mem (f := TrackedRow.txHash) member
    rw [lasts.hashes] at there
    obtain ⟨other, present, same⟩ := List.mem_map.mp there
    rw [← same]
    simpa using missing other present
  rw [findTracked, none]
  rfl

theorem settle {txHash : String} {status : TxStatus} {message : Option String} {now : Timestamp}
    (identified : Identified store.tracked) :
    Lasts store ((Statement.settle txHash status message now).run store).2 := by
  simp only [Statement.run]
  split
  · rename_i rows settled
    obtain ⟨change, rfl, columns, changed⟩ := settle_rows identified settled
    have hash : ∀ row, (change row).txHash = row.txHash :=
      fun row => congrArg (fun columns => columns.2.1) (columns row)
    have looked : ∀ wanted, (store.tracked.map change).find? (fun row => row.txHash = wanted) =
        (store.tracked.find? fun row => row.txHash = wanted).map change := by
      intro wanted
      simp only [List.find?_map, Function.comp_def, hash]
    -- Rows are found under the same hashes as before; only the status and what goes with it differ.
    refine { refl store with columns := ?_, tracked := ?_, terminal := ?_ }
    · rw [List.map_map]
      exact List.map_congr_left fun row _ => columns row
    · intro wanted found there
      cases found with
      | none =>
          have missing := readOptional_none there
          have absent : store.tracked.find? (fun row => row.txHash = wanted) = none :=
            List.find?_eq_none.mpr fun row member => by simpa using missing row member
          exact ⟨none, by rw [findTracked, looked, absent]; rfl, by simp⟩
      | some record =>
          obtain ⟨row, hit, reads⟩ := readOptional_some there
          have readable : Succeeds (change row).read := by
            rcases changed row (List.mem_of_find?_eq_some hit) with kept | ⟨_, _, made⟩
            · exact ⟨record, by rw [kept, reads]⟩
            · rw [made]
              exact ⟨_, TrackedRow.read_settled status message now reads⟩
          obtain ⟨later, rereads⟩ := readable
          refine ⟨some later, ?_, fun _ => rfl⟩
          rw [findTracked, looked, hit, Option.map_some, readOptional, rereads]
          rfl
    · intro wanted record found settled
      obtain ⟨row, hit, reads⟩ := readOptional_some found
      have member := List.mem_of_find?_eq_some hit
      have kept : change row = row := by
        rcases changed row member with kept | ⟨⟨tracked, rereads, live⟩, _⟩
        · exact kept
        · rw [reads] at rereads
          cases rereads
          rw [settled] at live
          cases live
      rw [findTracked, looked, hit, Option.map_some, kept, readOptional, reads]
      rfl
  · exact refl store

theorem append (entries : List Entry) (now : Nat → Timestamp) :
    Lasts store ((Statement.append entries now).run store).2 := by
  simp only [Statement.run]
  cases appended : appendEntries now entries store.movements with
  | none => exact refl store
  | some grown =>
      obtain ⟨added, rows, _⟩ := appendEntries_added appended
      refine { refl store with movements := fun key present => ?_ }
      simp only [rows, List.map_append]
      exact List.mem_append_left _ present

end Lasts

theorem Identified.lasts {before after : Store} (identified : Identified before.tracked)
    (lasts : Lasts before after) : Identified after.tracked :=
  identified.of_columns lasts.columns

theorem Statement.lasts (statement : Statement) {store : Store}
    (identified : Identified store.tracked) : Lasts store (statement.run store).2 := by
  have revised : ∀ txHash, StillFound (findDeposit store.deposits txHash)
      (findDeposit (store.deposits.map statement.revise) txHash) := by
    intro txHash
    have grown : StillFound (findDeposit store.deposits txHash)
        (findDeposit (store.deposits.map statement.revise ++ []) txHash) :=
      stillFound_grown txHash (revise_txHash statement)
        (fun _ => succeeds_revise statement) (by simp)
    rwa [List.append_nil] at grown
  cases statement with
  | settle => exact .settle identified
  | append entries now => exact .append entries now
  | addMigration record =>
      rcases run_insertMigration record store with ⟨_, same⟩ | ⟨_, grown⟩
      · rw [same]
        exact .refl store
      · rw [grown]
        refine { Lasts.refl store with migrations := fun txHash => ?_ }
        have grown : StillFound (findMigration store.migrations txHash)
            (findMigration (store.migrations.map id ++ [record.row]) txHash) :=
          stillFound_grown txHash (fun _ => rfl) (fun _ reads => reads)
            (by simpa using ⟨record, record.read_row⟩)
        rwa [List.map_id] at grown
  | addDeposit record =>
      rcases run_insertDeposit record store with ⟨_, same⟩ | ⟨_, grown⟩
      · rw [same]
        exact .refl store
      · rw [grown]
        refine { Lasts.refl store with deposits := fun txHash => ?_ }
        have grown : StillFound (findDeposit store.deposits txHash)
            (findDeposit (store.deposits.map id ++ [record.row]) txHash) :=
          stillFound_grown txHash (fun _ => rfl) (fun _ reads => reads)
            (by simpa using ⟨record, record.read_row⟩)
        rwa [List.map_id] at grown
  | claim | advance | release => exact { Lasts.refl store with deposits := revised }
  | addCursor | moveCursor => exact { Lasts.refl store with }
  | _ => exact .refl store

end Settlement.Store
