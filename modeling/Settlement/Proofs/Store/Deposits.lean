import Settlement.Proofs.Store.Effects
import Settlement.Proofs.Uuid.Text

/-!
The deposits under the storage calls. The id is the key of their table: a row is found by
it, a call changes the rows one by one, and a row that a call adds has a new id.
-/

namespace Settlement.Store

/-- What a call makes of a row that was there before. -/
def Statement.revise : Statement → DepositRow → DepositRow
  | .claim id now limit, row =>
      if row.isClaimable id now then { row with claimedUntil := some (.number limit) } else row
  | .advance id source target now, row =>
      if row.isAt id source then
        { row with status := Named.text target, claimedUntil := none, updated := now.stored }
      else row
  | .release id, row => if row.id = id.text then { row with claimedUntil := none } else row
  | _, row => row

def Keyed (store : Store) : Prop := (store.deposits.map DepositRow.id).Nodup

def deposit? (store : Store) (id : Uuid) : Option DepositRow :=
  store.deposits.find? fun row => row.id = id.text

variable {store : Store} {id : Uuid} {row : DepositRow}

theorem revise_id (statement : Statement) (row : DepositRow) :
    (statement.revise row).id = row.id := by
  cases statement <;> simp only [Statement.revise] <;> first | rfl | (split <;> rfl)

theorem revise_read {statement : Statement} (read : statement.isRead = true)
    (row : DepositRow) : statement.revise row = row := by
  cases statement <;> first | rfl | cases read

theorem revise_ids (statement : Statement) (rows : List DepositRow) :
    (rows.map statement.revise).map DepositRow.id = rows.map DepositRow.id := by
  rw [List.map_map]
  apply List.map_congr_left
  intro row _
  exact revise_id statement row

/-- Only the insert of a deposit adds a row, and it does so if the id and the hash are free. All
other calls map the rows at most. -/
theorem deposits_grow (statement : Statement) (store : Store) :
    (statement.run store).2.deposits = store.deposits.map statement.revise ∨
      ∃ record, statement = .addDeposit record ∧
        (∀ row ∈ store.deposits, row.id ≠ record.id.text ∧ row.txHash ≠ record.txHash) ∧
        (statement.run store).2.deposits = store.deposits.map statement.revise ++ [record.row] := by
  cases statement with
  | addDeposit record =>
      have same : store.deposits.map (Statement.addDeposit record).revise = store.deposits :=
        List.map_id _
      rw [same]
      rcases run_insertDeposit record store with ⟨_, ran⟩ | ⟨free, ran⟩
      · rw [ran]
        exact .inl rfl
      · rw [ran]
        exact .inr ⟨record, rfl, free, rfl⟩
  | claim | advance | release => exact .inl rfl
  | settle | addMigration | append =>
      refine .inl (Eq.trans ?_ (List.map_id _).symm)
      simp only [Statement.run]
      split <;> rfl
  | _ => exact .inl (List.map_id _).symm

theorem deposits_run (statement : Statement) (store : Store) :
    ∃ added, (statement.run store).2.deposits = store.deposits.map statement.revise ++ added ∧
      (store.Keyed → Keyed (statement.run store).2) := by
  rcases deposits_grow statement store with same | ⟨record, rfl, free, grown⟩
  · refine ⟨[], by rw [same, List.append_nil], fun keyed => ?_⟩
    rw [Keyed, same, revise_ids]
    exact keyed
  · refine ⟨[record.row], grown, fun keyed => ?_⟩
    have fresh : ∀ row ∈ store.deposits, row.id ≠ record.row.id :=
      fun row member => (free row member).1
    rw [Keyed, grown, List.map_append, revise_ids]
    simpa [List.nodup_append, List.mem_map] using ⟨keyed, fresh⟩

theorem keyed_run (statement : Statement) (keyed : store.Keyed) :
    Keyed (statement.run store).2 := by
  obtain ⟨_, _, kept⟩ := deposits_run statement store
  exact kept keyed

theorem deposit?_id (found : store.deposit? id = some row) : row.id = id.text := by
  simpa using List.find?_some found

theorem deposit?_append {after : Store} {added : List DepositRow}
    (grown : after.deposits = store.deposits ++ added) (found : store.deposit? id = some row) :
    after.deposit? id = some row := by
  rw [deposit?] at found ⊢
  rw [grown, List.find?_append, found, Option.some_or]

theorem deposit?_run (statement : Statement) (found : store.deposit? id = some row) :
    deposit? (statement.run store).2 id = some (statement.revise row) := by
  obtain ⟨added, grown, _⟩ := deposits_run statement store
  rw [deposit?] at found ⊢
  simp only [grown, List.find?_append, List.find?_map, Function.comp_def, revise_id, found,
    Option.map_some, Option.some_or]

theorem Keyed.inj (keyed : store.Keyed) {first second : DepositRow}
    (here : first ∈ store.deposits) (there : second ∈ store.deposits)
    (same : first.id = second.id) : first = second := by
  have apart : store.deposits.Pairwise fun a b => a.id ≠ b.id := List.pairwise_map.mp keyed
  have left : store.deposits.Pairwise fun a b => a.id = b.id → a = b :=
    apart.imp fun differ same => absurd same differ
  have right : store.deposits.Pairwise fun a b => b.id = a.id → b = a :=
    apart.imp fun differ same => absurd same.symm differ
  exact List.Pairwise.forall_of_forall_of_flip (fun _ _ _ => rfl) left right here there same

theorem deposit?_mem (keyed : store.Keyed) (member : row ∈ store.deposits)
    (same : row.id = id.text) : store.deposit? id = some row := by
  cases found : store.deposit? id with
  | none =>
      have other := List.find?_eq_none.mp found row member
      simp [same] at other
  | some first =>
      have hit := List.mem_of_find?_eq_some found
      rw [keyed.inj hit member ((deposit?_id found).trans same.symm)]

/-- The row waits for the bank and a worker holds it up to the given time. -/
def Held (store : Store) (id : Uuid) (limit : Int) : Prop :=
  ∃ row, store.deposit? id = some row ∧ row.status = Named.text DepositStatus.inserted ∧
    row.claimedUntil = some (.number limit)

def Finished (store : Store) (id : Uuid) : Prop :=
  ∃ row, store.deposit? id = some row ∧ row.status ≠ Named.text DepositStatus.inserted

theorem Held.not_finished {limit : Int} (held : store.Held id limit) : ¬ store.Finished id := by
  rintro ⟨row, found, moved⟩
  obtain ⟨other, same, waiting, _⟩ := held
  rw [found] at same
  cases same
  exact moved waiting

theorem Held.append {after : Store} {added : List DepositRow} {limit : Int}
    (held : store.Held id limit) (grown : after.deposits = store.deposits ++ added) :
    after.Held id limit := by
  obtain ⟨row, found, rest⟩ := held
  exact ⟨row, deposit?_append grown found, rest⟩

theorem Finished.append {after : Store} {added : List DepositRow} (finished : store.Finished id)
    (grown : after.deposits = store.deposits ++ added) : after.Finished id := by
  obtain ⟨row, found, moved⟩ := finished
  exact ⟨row, deposit?_append grown found, moved⟩

theorem Held.run {statement : Statement} {limit : Int} (held : store.Held id limit)
    (kept : ∀ row, row.id = id.text → row.claimedUntil = some (.number limit) →
      statement.revise row = row) : Held (statement.run store).2 id limit := by
  obtain ⟨row, found, waiting, claimed⟩ := held
  have same := deposit?_run statement found
  rw [kept row (deposit?_id found) claimed] at same
  exact ⟨row, same, waiting, claimed⟩

theorem Finished.run {statement : Statement} (finished : store.Finished id)
    (kept : ∀ row, row.id = id.text → row.status ≠ Named.text DepositStatus.inserted →
      (statement.revise row).status = row.status) : Finished (statement.run store).2 id := by
  obtain ⟨row, found, moved⟩ := finished
  refine ⟨_, deposit?_run statement found, ?_⟩
  rw [kept row (deposit?_id found) moved]
  exact moved

section Claims

variable {now limit : Int}

theorem not_claimable {standing : Int} (claimed : row.claimedUntil = some (.number standing))
    (stands : now ≤ standing) : row.isClaimable id now = false := by
  simp only [DepositRow.isClaimable, DepositRow.isPending, claimed, Option.all_some, Cell.isBelow,
    Bool.and_eq_false_iff, decide_eq_false_iff_not]
  exact .inr (.inr (Int.not_lt.mpr stands))

theorem claim_granted {deposit : Deposit} (keyed : store.Keyed)
    (granted : ((Statement.claim id now limit).run store).1 = .ok (some deposit)) :
    ∃ row, store.deposit? id = some row ∧ row.isClaimable id now = true := by
  obtain ⟨row, hit, _⟩ := readOptional_some granted
  have claimable := List.find?_some hit
  have same : row.id = id.text := by
    simp only [DepositRow.isClaimable, Bool.and_eq_true, decide_eq_true_eq] at claimable
    exact claimable.1
  exact ⟨row, deposit?_mem keyed (List.mem_of_find?_eq_some hit) same, claimable⟩

theorem claim_refused {standing : Int} (keyed : store.Keyed) (held : store.Held id standing)
    (stands : now ≤ standing) : ((Statement.claim id now limit).run store).1 = .ok none := by
  obtain ⟨row, found, _, claimed⟩ := held
  have unclaimable : store.deposits.find? (DepositRow.isClaimable id now) = none := by
    apply List.find?_eq_none.mpr
    intro other member claimable
    have same : other.id = id.text := by
      simp only [DepositRow.isClaimable, Bool.and_eq_true, decide_eq_true_eq] at claimable
      exact claimable.1
    rw [deposit?_mem keyed member same] at found
    cases found
    rw [not_claimable claimed stands] at claimable
    cases claimable
  simp only [Statement.run, claim, unclaimable, readOptional]

/-- A row that cannot be read is claimed as well, only the worker does not learn of it. -/
theorem claim_not_refused (found : store.deposit? id = some row)
    (claimable : row.isClaimable id now = true) :
    ((Statement.claim id now limit).run store).1 ≠ .ok none := by
  intro refused
  have unclaimable := readOptional_none refused row (List.mem_of_find?_eq_some found)
  rw [claimable] at unclaimable
  cases unclaimable

theorem held_claim (found : store.deposit? id = some row)
    (claimable : row.isClaimable id now = true) :
    Held ((Statement.claim id now limit).run store).2 id limit := by
  have revised := deposit?_run (.claim id now limit) found
  simp only [Statement.revise, claimable, if_true] at revised
  refine ⟨_, revised, ?_, rfl⟩
  simp only [DepositRow.isClaimable, DepositRow.isPending, Bool.and_eq_true,
    decide_eq_true_eq] at claimable
  exact claimable.2.1

end Claims

theorem deposit?_release (found : store.deposit? id = some row) :
    deposit? ((Statement.release id).run store).2 id = some { row with claimedUntil := none } := by
  have revised := deposit?_run (.release id) found
  simpa only [Statement.revise, deposit?_id found, if_true] using revised

theorem finished_advance {target : DepositStatus} {now : Timestamp} {limit : Int}
    (held : store.Held id limit)
    (moves : Named.text target ≠ Named.text DepositStatus.inserted) :
    Finished ((Statement.advance id .inserted target now).run store).2 id := by
  obtain ⟨row, found, waiting, _⟩ := held
  have revised := deposit?_run (.advance id .inserted target now) found
  have here : row.isAt id .inserted = true := by
    simp [DepositRow.isAt, deposit?_id found, waiting]
  simp only [Statement.revise, here, if_true] at revised
  exact ⟨_, revised, moves⟩

end Settlement.Store
