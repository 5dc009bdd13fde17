import Mathlib.Data.List.Nodup
import Settlement.Proofs.Consumer.Reference
import Settlement.Proofs.Store.Readable

/-!
Tables that grow by rows with new keys. If a key decides what a row says, two tables that grew
from the same rows and have the same keys say the same, in whatever order they grew.
-/

namespace Settlement.Store

/-! Rows without what is made up when they are written: identifiers and times. -/

def TrackedRow.core (row : TrackedRow) : TrackedRow := { row with updated := "" }

def MigrationRow.core (row : MigrationRow) : MigrationRow := { row with id := "", created := "" }

def DepositRow.core (row : DepositRow) : DepositRow :=
  { row with id := "", created := "", updated := "" }

/-- What the unique indices of the tables demand. -/
structure Unique (store : Store) : Prop where
  tracked : (store.tracked.map TrackedRow.txHash).Nodup
  migrations : (store.migrations.map MigrationRow.txHash).Nodup
  deposits : (store.deposits.map DepositRow.txHash).Nodup
  movements : (store.movements.map (·.key)).Nodup

section GrownBy

variable {row : Type} {key : row → String} {core : row → row} {due : row → Prop}
  {before after one other : List row}

/-- Rows that were due have been added, and no two rows share a key. -/
def GrownBy (key : row → String) (core : row → row) (due : row → Prop)
    (before after : List row) : Prop :=
  ∃ added, after = before ++ added ∧ (after.map key).Nodup ∧ ∀ row ∈ added, due (core row)

theorem GrownBy.refl (distinct : (before.map key).Nodup) : GrownBy key core due before before :=
  ⟨[], by simp, distinct, by simp⟩

theorem GrownBy.nodup (grown : GrownBy key core due before after) : (after.map key).Nodup := by
  obtain ⟨_, _, distinct, _⟩ := grown
  exact distinct

theorem GrownBy.append {more : List row} (grown : GrownBy key core due before after)
    (distinct : ((after ++ more).map key).Nodup) (new : ∀ row ∈ more, due (core row)) :
    GrownBy key core due before (after ++ more) := by
  obtain ⟨added, rfl, _, old⟩ := grown
  refine ⟨added ++ more, by simp, distinct, fun row member => ?_⟩
  rcases List.mem_append.mp member with there | there
  · exact old row there
  · exact new row there

theorem GrownBy.add {record : row} (grown : GrownBy key core due before after)
    (free : ∀ row ∈ after, key row ≠ key record) (new : due (core record)) :
    GrownBy key core due before (after ++ [record]) := by
  refine grown.append ?_ (by simpa using new)
  rw [List.map_append, List.nodup_append]
  exact ⟨grown.nodup, by simp, by simpa using free⟩

theorem GrownBy.subset (grown : GrownBy key core due before after) :
    before.map key ⊆ after.map key := by
  obtain ⟨added, rfl, _⟩ := grown
  simp

theorem GrownBy.mem (grown : GrownBy key core due before after) {wanted : String}
    (present : wanted ∈ after.map key) (absent : wanted ∉ before.map key) :
    ∃ row, key row = wanted ∧ due (core row) := by
  obtain ⟨added, rfl, _, new⟩ := grown
  rw [List.map_append, List.mem_append] at present
  obtain ⟨row, there, same⟩ := List.mem_map.mp (present.resolve_left absent)
  exact ⟨row, same, new row there⟩

theorem GrownBy.succeeds {value : Type} {read : row → Except Fault value}
    (grown : GrownBy key core due before after) {wanted : String}
    (reads : Succeeds (readOptional read (after.find? fun row => key row = wanted))) :
    Succeeds (readOptional read (before.find? fun row => key row = wanted)) := by
  obtain ⟨added, rfl, _⟩ := grown
  cases found : before.find? (fun row => key row = wanted) with
  | none => exact ⟨none, rfl⟩
  | some row =>
      rw [List.find?_append, found] at reads
      exact reads

theorem GrownBy.perm (same_key : ∀ row, key (core row) = key row)
    (decides : ∀ a b, due a → due b → key a = key b → a = b)
    (left : GrownBy key core due before one) (right : GrownBy key core due before other)
    (inLeft : ∀ row, due row → key row ∈ one.map key)
    (inRight : ∀ row, due row → key row ∈ other.map key) :
    (one.map core).Perm (other.map core) := by
  obtain ⟨first, rfl, leftDistinct, leftDue⟩ := left
  obtain ⟨second, rfl, rightDistinct, rightDue⟩ := right
  have cores : ∀ rows : List row, (rows.map core).map key = rows.map key := by
    intro rows
    rw [List.map_map]
    exact List.map_congr_left fun row _ => same_key row
  simp only [List.map_append, List.nodup_append] at leftDistinct rightDistinct
  obtain ⟨_, leftNodup, leftApart⟩ := leftDistinct
  obtain ⟨_, rightNodup, rightApart⟩ := rightDistinct
  -- A row that is due on one side has a new key there, so the other side has added it as well.
  have moves : ∀ {here there : List row}, (∀ row ∈ here, due (core row)) →
      (∀ row ∈ there, due (core row)) →
      (∀ a ∈ before.map key, ∀ b ∈ here.map key, a ≠ b) →
      (∀ row, due row → key row ∈ (before ++ there).map key) →
      ∀ item ∈ here.map core, item ∈ there.map core := by
    rintro here there dueHere dueThere apart present item member
    obtain ⟨row, inHere, rfl⟩ := List.mem_map.mp member
    have found := present _ (dueHere row inHere)
    rw [same_key, List.map_append, List.mem_append] at found
    rcases found with old | new
    · exact (apart _ old _ (List.mem_map_of_mem inHere) rfl).elim
    · obtain ⟨twin, inThere, same⟩ := List.mem_map.mp new
      refine List.mem_map.mpr ⟨twin, inThere, ?_⟩
      exact decides _ _ (dueThere twin inThere) (dueHere row inHere)
        (by rw [same_key, same_key, same])
  rw [List.map_append, List.map_append]
  refine List.Perm.append_left _ ((List.perm_ext_iff_of_nodup ?_ ?_).mpr fun item => ⟨?_, ?_⟩)
  · exact .of_map key (by rwa [cores])
  · exact .of_map key (by rwa [cores])
  · exact moves leftDue rightDue leftApart inRight item
  · exact moves rightDue leftDue rightApart inLeft item

end GrownBy

end Settlement.Store
