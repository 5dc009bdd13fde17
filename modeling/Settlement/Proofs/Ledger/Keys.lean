import Mathlib.Data.List.Nodup
import Settlement.Proofs.Consumer.Reference
import Settlement.Proofs.Text.Digits

/-!
The keys of ledger entries. A key tells the transaction's hash and the number, so the entries
of a block have different keys, and appending adds exactly the ones whose key is free.
-/

namespace Settlement

namespace Ledger

variable {time : Timestamp} {first second : Nat} {admitted : List Admitted}

theorem key_inj {hash other : String}
    (same : hash ++ "-" ++ toString first = other ++ "-" ++ toString second) :
    hash = other ∧ first = second := by
  -- The number is what stands after the last hyphen.
  have ending : ∀ (text : String) (number : Nat),
      (text ++ "-" ++ toString number).toList.reverse.takeWhile Char.isDigit =
        (Nat.toDigits 10 number).reverse := by
    intro text number
    have digits : ∀ c ∈ (Nat.toDigits 10 number).reverse, c.isDigit = true := fun c member =>
      Nat.isDigit_of_mem_toDigits (by decide) (by decide) (List.mem_reverse.mp member)
    simp only [String.toList_append, Nat.toString_eq_repr, Nat.toList_repr, List.reverse_append,
      List.takeWhile_append_of_pos digits]
    simp [Char.isDigit]
  have written : Nat.toDigits 10 first = Nat.toDigits 10 second := by
    rw [← List.reverse_inj, ← ending hash, ← ending other, same]
  obtain rfl : first = second := Text.Decimal.toDigits_inj written
  have texts := congrArg String.toList same
  simp only [String.toList_append, List.append_cancel_right_eq] at texts
  exact ⟨String.toList_injective texts, rfl⟩

theorem mem_keys_entriesFrom {index : Nat} {key : String} :
    key ∈ (entriesFrom time index admitted).map Store.Entry.key ↔
      ∃ offset item, admitted[offset]? = some item ∧
        key = item.txHash ++ "-" ++ toString (index + offset) := by
  induction admitted generalizing index with
  | nil => simp [entriesFrom]
  | cons item rest ih =>
      simp only [entriesFrom, List.map_cons, List.mem_cons, ih]
      constructor
      · rintro (rfl | ⟨offset, other, found, rfl⟩)
        · exact ⟨0, item, rfl, rfl⟩
        · refine ⟨offset + 1, other, found, ?_⟩
          rw [Nat.add_right_comm, Nat.add_assoc]
      · rintro ⟨offset | offset, other, found, rfl⟩
        · cases found
          exact .inl rfl
        · refine .inr ⟨offset, other, found, ?_⟩
          rw [Nat.add_right_comm, Nat.add_assoc]

theorem nodup_keys_entriesFrom (time : Timestamp) (index : Nat) (admitted : List Admitted) :
    ((entriesFrom time index admitted).map Store.Entry.key).Nodup := by
  induction admitted generalizing index with
  | nil => exact .nil
  | cons item rest ih =>
      refine List.nodup_cons.mpr ⟨?_, ih (index + 1)⟩
      intro member
      obtain ⟨offset, other, _, same⟩ := mem_keys_entriesFrom.mp member
      have number := (key_inj same).2
      omega

section Hashes

variable {settings : Settings} {account : String → Option Uuid} {item : Admitted}

theorem hash_admittedMint {mint : Chain.Mint} (admits : admittedMint account mint = some item) :
    item.txHash = mint.txHash := by
  unfold admittedMint at admits
  split at admits
  · cases admits
  · obtain ⟨bank, _, rfl⟩ := Option.map_eq_some_iff.mp admits
    rfl

theorem hash_admittedBurn {transfer : Chain.Transfer}
    (admits : admittedBurn settings account transfer = some item) :
    item.txHash = transfer.txHash := by
  unfold admittedBurn at admits
  split at admits
  · cases admits
  · split at admits
    · cases admits
    · obtain ⟨bank, _, rfl⟩ := Option.map_eq_some_iff.mp admits
      rfl

theorem hash_admittedTransfer {transfer : Chain.MarkerTransfer}
    (admits : admittedTransfer settings account transfer = some item) :
    item.txHash = transfer.txHash := by
  unfold admittedTransfer at admits
  split at admits
  · cases admits
  · split at admits <;> cases admits
    rfl

end Hashes

end Ledger

theorem Intake.hash_admitted {intake : Intake} {batch : Chain.Batch} {item : Ledger.Admitted}
    (member : item ∈ intake.admitted batch) :
    ∃ event ∈ batch.events, event.txHash = item.txHash := by
  simp only [admitted, Ledger.admittedBlock, List.mem_append, List.mem_filterMap,
    Chain.Batch.mints, Chain.Batch.transfers, Chain.Batch.actions, Chain.Batch.markerTransfers,
    List.mem_map, List.mem_filter] at member
  rcases member with (⟨_, ⟨event, ⟨present, _⟩, rfl⟩, admits⟩ |
    ⟨_, ⟨event, ⟨present, _⟩, rfl⟩, admits⟩) | ⟨_, ⟨event, ⟨present, _⟩, rfl⟩, admits⟩
  · exact ⟨event, present, (Ledger.hash_admittedMint admits).symm⟩
  · exact ⟨event, present, (Ledger.hash_admittedBurn admits).symm⟩
  · exact ⟨event, present, (Ledger.hash_admittedTransfer admits).symm⟩

namespace Store

/-- The row that an entry makes, without the time of its insertion. -/
def Entry.fact? (entry : Entry) : Option MovementRow :=
  entry.movement?.map fun movement => (movement.row movement.time).facts

theorem Entry.key_fact {entry : Entry} {row : MovementRow} (fact : entry.fact? = some row) :
    row.key = entry.key := by
  obtain ⟨movement, fits, rfl⟩ := Option.map_eq_some_iff.mp fact
  exact Entry.key_movement fits

theorem appendFacts_some {entries : List Entry} {rows after : List MovementRow}
    (distinct : (entries.map Entry.key).Nodup) (appended : appendFacts entries rows = some after) :
    (∀ entry ∈ entries, entry.fact?.isSome = true) ∧
      after = rows ++ (entries.filterMap Entry.fact?).filter
        fun row => row.key ∉ rows.map (·.key) := by
  induction entries generalizing rows with
  | nil =>
      cases appended
      simp
  | cons entry rest ih =>
      obtain ⟨movement, fits, tail⟩ := Option.bind_eq_some_iff.mp appended
      obtain ⟨apart, others⟩ := List.nodup_cons.mp distinct
      obtain ⟨fitting, rfl⟩ := ih others tail
      have fact : entry.fact? = some (movement.row movement.time).facts := by
        rw [Entry.fact?, fits, Option.map_some]
      have key := Entry.key_fact fact
      -- The entries after this one have other keys, so its row takes none of theirs.
      have unmoved : ∀ added : List MovementRow, (∀ row ∈ added, row.key = entry.key) →
          (rest.filterMap Entry.fact?).filter (fun row => row.key ∉ (rows ++ added).map (·.key)) =
            (rest.filterMap Entry.fact?).filter fun row => row.key ∉ rows.map (·.key) := by
        intro added same
        apply List.filter_congr
        intro row member
        obtain ⟨other, present, made⟩ := List.mem_filterMap.mp member
        have different : ∀ item ∈ added, item.key ≠ row.key := by
          intro item inAdded equal
          apply apart
          rw [← same item inAdded, equal, Entry.key_fact made]
          exact List.mem_map_of_mem present
        simpa [List.mem_map] using fun _ => different
      refine ⟨?_, ?_⟩
      · intro other member
        rcases List.mem_cons.mp member with rfl | later
        · rw [fact]
          rfl
        · exact fitting other later
      · by_cases taken : (movement.row movement.time).facts.key ∈ rows.map (·.key)
        · rw [addMovement_taken taken, Option.getD_none, List.filterMap_cons_some fact,
            List.filter_cons_of_neg (by simpa using taken)]
        · rw [addMovement_free taken, Option.getD_some, unmoved _ (by simpa using key),
            List.append_assoc, List.filterMap_cons_some fact,
            List.filter_cons_of_pos (by simpa using taken)]
          rfl

section Append

variable {now : Nat → Timestamp} {entries : List Entry} {rows after : List MovementRow}
  {count : Nat}

theorem appendEntries_added (appended : appendEntries now entries rows = some (count, after)) :
    ∃ added, after = rows ++ added ∧ added.length = count ∧
      ((rows.map (·.key)).Nodup → (after.map (·.key)).Nodup) ∧
      (∀ row ∈ added, ∃ entry ∈ entries, entry.fact? = some row.facts) ∧
      ∀ entry ∈ entries, entry.fact?.isSome = true ∧ entry.key ∈ after.map (·.key) := by
  induction entries generalizing now rows count with
  | nil =>
      cases appended
      exact ⟨[], by simp⟩
  | cons entry rest ih =>
      obtain ⟨movement, fits, tail⟩ := Option.bind_eq_some_iff.mp appended
      have fact : entry.fact? = some (movement.row (now 0)).facts := by
        simp only [Entry.fact?, fits, Option.map_some, Movement.row, MovementRow.facts]
      have key : (movement.row (now 0)).key = entry.key := Entry.key_movement fits
      -- A taken key adds nothing, a free one puts its row before all that the rest adds.
      by_cases taken : (movement.row (now 0)).key ∈ rows.map (·.key)
      · rw [addMovement_taken taken] at tail
        obtain ⟨added, rfl, length, distinct, source, present⟩ := ih tail
        refine ⟨added, rfl, length, distinct, ?_, ?_⟩
        · intro row member
          obtain ⟨other, later, same⟩ := source row member
          exact ⟨other, List.mem_cons_of_mem _ later, same⟩
        · intro other member
          rcases List.mem_cons.mp member with rfl | later
          · rw [key] at taken
            refine ⟨by rw [fact]; rfl, ?_⟩
            rw [List.map_append]
            exact List.mem_append_left _ taken
          · exact present other later
      · rw [addMovement_free taken] at tail
        obtain ⟨⟨more, final⟩, appended, same⟩ := Option.map_eq_some_iff.mp tail
        cases same
        obtain ⟨added, rfl, rfl, distinct, source, present⟩ := ih appended
        refine ⟨movement.row (now 0) :: added, by simp, rfl, ?_, ?_, ?_⟩
        · intro before
          apply distinct
          rw [key] at taken
          simpa [List.nodup_append, key] using ⟨before, by simpa using taken⟩
        · intro row member
          rcases List.mem_cons.mp member with rfl | later
          · exact ⟨entry, List.mem_cons_self, fact⟩
          · obtain ⟨other, there, same⟩ := source row later
            exact ⟨other, List.mem_cons_of_mem _ there, same⟩
        · intro other member
          rcases List.mem_cons.mp member with rfl | later
          · exact ⟨by rw [fact]; rfl, by simp [key]⟩
          · exact present other later

/-- Only a height that does not fit undoes an append. -/
theorem appendEntries_none (refused : appendEntries now entries rows = none) :
    ∃ entry ∈ entries, entry.fact? = none := by
  induction entries generalizing now rows with
  | nil => cases refused
  | cons entry rest ih =>
      have later : (∃ now rows, appendEntries now rest rows = none) →
          ∃ other ∈ entry :: rest, other.fact? = none := by
        rintro ⟨now, rows, refused⟩
        obtain ⟨other, member, misfit⟩ := ih refused
        exact ⟨other, List.mem_cons_of_mem _ member, misfit⟩
      cases made : entry.movement? with
      | none => exact ⟨entry, List.mem_cons_self, by rw [Entry.fact?, made]; rfl⟩
      | some movement =>
          simp only [appendEntries, made, Option.bind_eq_bind, Option.bind_some] at refused
          split at refused
          · exact later ⟨_, _, refused⟩
          · exact later ⟨_, _, Option.map_eq_none_iff.mp refused⟩

theorem appendEntries_taken (now : Nat → Timestamp)
    (taken : ∀ entry ∈ entries, entry.fact?.isSome = true ∧ entry.key ∈ rows.map (·.key)) :
    appendEntries now entries rows = some (0, rows) := by
  induction entries generalizing now with
  | nil => rfl
  | cons entry rest ih =>
      obtain ⟨fits, present⟩ := taken entry List.mem_cons_self
      rw [Entry.fact?, Option.isSome_map] at fits
      obtain ⟨movement, made⟩ := Option.isSome_iff_exists.mp fits
      have refused : addMovement rows (movement.row (now 0)) = none := by
        refine addMovement_taken ?_
        change movement.key ∈ _
        rw [Entry.key_movement made]
        exact present
      simp only [appendEntries, made, Option.bind_eq_bind, Option.bind_some, refused]
      exact ih _ fun other member => taken other (List.mem_cons_of_mem _ member)

end Append

end Store

end Settlement
