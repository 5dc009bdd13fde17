import Mathlib.Data.List.Nodup
import Settlement.Proofs.Store.Effects
import Settlement.Proofs.Store.Readable

/-!
The tracked transactions when one is settled. The row is found by its hash and written by its
id, so it is the only one that changes if the ids are distinct and in their written form.
-/

namespace Settlement.Store

def TrackedRow.columns (row : TrackedRow) : String × String × String :=
  (row.id, row.txHash, row.kind)

/-- The ids are distinct and in their written form. -/
structure Identified (rows : List TrackedRow) : Prop where
  distinct : (rows.map TrackedRow.id).Nodup
  written : ∀ row ∈ rows, ∃ id : Uuid, row.id = id.text

def TrackedRow.isOpen (row : TrackedRow) : Bool :=
  row.status = Named.text TxStatus.pending || row.status = Named.text TxStatus.actionComplete

/-- The row can be read, and its status is not terminal. -/
def TrackedRow.CanSettle (row : TrackedRow) : Prop :=
  ∃ tracked, row.read = .ok tracked ∧ tracked.status.isTerminal = false

theorem TrackedRow.CanSettle.isOpen {row : TrackedRow} (can : row.CanSettle) :
    row.isOpen = true := by
  obtain ⟨tracked, reads, live⟩ := can
  obtain ⟨_, _, status⟩ := row.read_ok reads
  rw [TrackedRow.isOpen, status]
  cases known : tracked.status with
  | pending | actionComplete => rfl
  | complete | error => simp [known, TxStatus.isTerminal] at live

theorem TrackedRow.not_isOpen {row : TrackedRow} {status : TxStatus}
    (terminal : status.isTerminal = true) (same : row.status = Named.text status) :
    row.isOpen = false := by
  unfold TrackedRow.isOpen
  cases status with
  | pending | actionComplete => cases terminal
  | complete | error =>
      rw [same]
      decide

theorem Identified.of_columns {rows after : List TrackedRow} (identified : Identified rows)
    (same : after.map TrackedRow.columns = rows.map TrackedRow.columns) : Identified after := by
  have ids : after.map TrackedRow.id = rows.map TrackedRow.id := by
    have firsts := congrArg (List.map Prod.fst) same
    rwa [List.map_map, List.map_map] at firsts
  constructor
  · rw [ids]
    exact identified.distinct
  · intro row member
    have there := List.mem_map_of_mem (f := TrackedRow.id) member
    rw [ids] at there
    obtain ⟨other, present, equal⟩ := List.mem_map.mp there
    obtain ⟨id, written⟩ := identified.written other present
    exact ⟨id, equal.symm.trans written⟩

theorem TrackedRow.read_settled {row : TrackedRow} {tracked : Tracked} (status : TxStatus)
    (message : Option String) (now : Timestamp) (reads : row.read = .ok tracked) :
    { row with status := Named.text status, message, updated := now.stored }.read =
      .ok { tracked with status, message, updated := now } := by
  have readsStatus : readName "status" (Named.text status) = .ok status := by
    rw [readName, Named.ofText?_tx]
    rfl
  simp only [TrackedRow.read, bind_ok] at reads ⊢
  obtain ⟨id, readsId, kind, readsKind, _, _, created, readsCreated, _, _, made⟩ := reads
  cases made
  exact ⟨id, readsId, kind, readsKind, status, readsStatus, created, readsCreated, now,
    readTime_stored "updated" now, rfl⟩

theorem txHash_findTracked {rows : List TrackedRow} {txHash : String} {tracked : Tracked}
    (found : findTracked rows txHash = .ok (some tracked)) : tracked.txHash = txHash := by
  obtain ⟨row, hit, reads⟩ := readOptional_some found
  obtain ⟨_, same, _⟩ := row.read_ok reads
  rw [← same]
  simpa using List.find?_some hit

section Settle

variable {rows after : List TrackedRow} {txHash : String} {status : TxStatus}
  {message : Option String} {now : Timestamp}

theorem Identified.id_iff (identified : Identified rows) {row other : TrackedRow}
    {tracked : Tracked} (here : row ∈ rows) (reads : row.read = .ok tracked)
    (member : other ∈ rows) : other.id = tracked.id.text ↔ other = row := by
  obtain ⟨id, _⟩ := row.read_ok reads
  obtain ⟨written, same⟩ := identified.written row here
  obtain rfl : written = tracked.id := by
    rw [same, Uuid.ofText?_text] at id
    exact Option.some.inj id
  constructor
  · intro equal
    exact List.inj_on_of_nodup_map identified.distinct member here (equal.trans same.symm)
  · rintro rfl
    exact same

theorem settle_rows (identified : Identified rows)
    (settled : settle rows txHash status message now = .ok after) :
    ∃ change : TrackedRow → TrackedRow, after = rows.map change ∧
      (∀ row, (change row).columns = row.columns) ∧
      ∀ row ∈ rows, change row = row ∨ row.CanSettle ∧ row.txHash = txHash ∧ change row =
        { row with status := Named.text status, message, updated := now.stored } := by
  have unmoved : ∃ change : TrackedRow → TrackedRow, rows = rows.map change ∧
      (∀ row, (change row).columns = row.columns) ∧
      ∀ row ∈ rows, change row = row ∨ row.CanSettle ∧ row.txHash = txHash ∧ change row =
        { row with status := Named.text status, message, updated := now.stored } :=
    ⟨id, (List.map_id rows).symm, fun _ => rfl, fun row _ => .inl rfl⟩
  obtain ⟨tracked, found, settled⟩ := bind_ok.mp settled
  cases tracked with
  | none =>
      cases settled
      exact unmoved
  | some tracked =>
      dsimp only at settled
      split at settled <;> cases settled
      · exact unmoved
      · rename_i live
        obtain ⟨row, hit, reads⟩ := readOptional_some found
        have here := List.mem_of_find?_eq_some hit
        have hash : row.txHash = txHash := by simpa using List.find?_some hit
        refine ⟨_, rfl, fun other => ?_, fun other member => ?_⟩
        · split <;> rfl
        · -- The row is found by its hash but written by its id, which no other row has.
          by_cases chosen : other.id = tracked.id.text
          · rw [if_pos chosen]
            obtain rfl := (identified.id_iff here reads member).mp chosen
            exact .inr ⟨⟨tracked, reads, by simpa using live⟩, hash, rfl⟩
          · rw [if_neg chosen]
            exact .inl rfl

theorem Identified.settle (identified : Identified rows)
    (settled : settle rows txHash status message now = .ok after) : Identified after := by
  obtain ⟨change, moved, columns, _⟩ := settle_rows identified settled
  apply identified.of_columns
  rw [moved, List.map_map]
  exact List.map_congr_left fun row _ => columns row

theorem run_settle_ok {store : Store}
    (readable : Succeeds (findTracked store.tracked txHash)) :
    ∃ rows, settle store.tracked txHash status message now = .ok rows ∧
      (Statement.settle txHash status message now).run store =
        (.ok (), { store with tracked := rows }) := by
  obtain ⟨found, looked⟩ := readable
  have settles : Succeeds (settle store.tracked txHash status message now) := by
    rw [settle, looked]
    cases found with
    | none => exact succeeds_pure _
    | some tracked =>
        change Succeeds (if _ then _ else _)
        split <;> exact succeeds_pure _
  obtain ⟨rows, settled⟩ := settles
  exact ⟨rows, settled, by simp only [Statement.run, settled]⟩

theorem settle_open (identified : Identified rows) {tracked : Tracked}
    (found : findTracked rows txHash = .ok (some tracked))
    (live : tracked.status.isTerminal = false)
    (settled : settle rows txHash status message now = .ok after) :
    findTracked after txHash = .ok (some { tracked with status, message, updated := now }) := by
  obtain ⟨other, looked, settled⟩ := bind_ok.mp settled
  obtain rfl := Except.ok.inj (looked.symm.trans found)
  simp only [live, Bool.false_eq_true, if_false] at settled
  cases settled
  obtain ⟨row, hit, reads⟩ := readOptional_some found
  have here := List.mem_of_find?_eq_some hit
  have chosen : row.id = tracked.id.text := (identified.id_iff here reads here).mpr rfl
  have same : ∀ other : TrackedRow, (if other.id = tracked.id.text then
      { other with status := Named.text status, message, updated := now.stored }
      else other).txHash = other.txHash := by
    intro other
    split <;> rfl
  simp only [findTracked, setStatus, List.find?_map, Function.comp_def, same, hit,
    Option.map_some, if_pos chosen, readOptional]
  rw [TrackedRow.read_settled status message now reads]
  rfl

theorem settle_terminal (identified : Identified rows) (terminal : status.isTerminal = true)
    (settled : settle rows txHash status message now = .ok after) :
    ∃ found, findTracked after txHash = .ok found ∧
      ∀ tracked ∈ found, tracked.status.isTerminal = true := by
  obtain ⟨tracked, found, moved⟩ := bind_ok.mp settled
  cases tracked with
  | none =>
      cases moved
      exact ⟨none, found, by simp⟩
  | some tracked =>
      cases closed : tracked.status.isTerminal with
      | true =>
          simp only [closed, if_true] at moved
          cases moved
          exact ⟨some tracked, found, by simpa using closed⟩
      | false =>
          exact ⟨_, settle_open identified found closed settled, by simpa using terminal⟩

theorem settle_other {other : String} (identified : Identified rows) (apart : txHash ≠ other)
    (settled : settle rows txHash status message now = .ok after) :
    findTracked after other = findTracked rows other := by
  obtain ⟨change, rfl, columns, changed⟩ := settle_rows identified settled
  have hashes : ∀ row, (change row).txHash = row.txHash :=
    fun row => congrArg (fun columns => columns.2.1) (columns row)
  simp only [findTracked, List.find?_map, Function.comp_def, hashes]
  cases hit : rows.find? fun row => row.txHash = other with
  | none => rfl
  | some row =>
      have hash : row.txHash = other := by simpa using List.find?_some hit
      rcases changed row (List.mem_of_find?_eq_some hit) with same | ⟨_, settledHash, _⟩
      · rw [Option.map_some, same]
      · exact absurd (settledHash.symm.trans hash) apart

end Settle

end Settlement.Store
