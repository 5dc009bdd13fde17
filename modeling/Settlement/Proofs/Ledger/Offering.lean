import Settlement.Proofs.Ledger.Renumbering

/-!
The rows that a block offers to the ledger, numbered from zero in the order of its mints, burns
and transfers. A recording that succeeds appends the rows whose keys are free and touches
nothing else. Two rows of a block never share a key, whatever the hashes look like, so all of
them are new to a ledger that has not met their transactions.
-/

namespace Settlement

namespace Store

/-- The row belongs to the transaction, by its bare hash or by its key. -/
def MovementRow.mentions (hash : String) (row : MovementRow) : Prop :=
  row.legacyHash = some hash ∨ ∃ number : Nat, row.key = hash ++ "-" ++ toString number

def Numbered (rows : List MovementRow) : Prop :=
  ∀ row ∈ rows, ∃ hash, ∃ number : Nat,
    row.legacyHash = some hash ∧ row.key = hash ++ "-" ++ toString number

end Store

namespace Ledger

open Activity
open Store (MovementRow Numbered)

def Admitted.row (time now : Timestamp) (number : Nat) (item : Admitted) : MovementRow where
  key := item.txHash ++ "-" ++ toString number
  legacyHash := some item.txHash
  fromAddress := item.fromAddress
  fromBank := item.fromBank.map Uuid.text
  toAddress := item.toAddress
  toBank := item.toBank.map Uuid.text
  height := .number item.height
  time := time.stored
  amount := item.amount
  denom := item.denom
  kind := Named.text item.kind
  created := now.stored

/-- The rows of a block, each written at its own time, numbered from the index on. -/
def offered (time : Timestamp) (now : Nat → Timestamp) (index : Nat) (admitted : List Admitted) :
    List MovementRow :=
  admitted.mapIdx fun offset item => item.row time (now offset) (index + offset)

section Rows

variable {time : Timestamp} {now : Nat → Timestamp} {index : Nat} {item : Admitted}
  {admitted : List Admitted} {rows after : List MovementRow}

theorem offered_cons (rest : List Admitted) :
    offered time now index (item :: rest) = item.row time (now 0) index ::
      offered time (fun offset => now (offset + 1)) (index + 1) rest := by
  have later :
      (fun offset item => Admitted.row time (now (offset + 1)) (index + (offset + 1)) item) =
        fun offset item => Admitted.row time (now (offset + 1)) (index + 1 + offset) item := by
    funext offset item
    rw [Nat.add_right_comm, Nat.add_assoc]
  rw [offered, List.mapIdx_cons, later]
  rfl

theorem mem_offered {row : MovementRow} : row ∈ offered time now index admitted ↔
    ∃ (offset : Nat) (item : Admitted), admitted[offset]? = some item ∧
      row = item.row time (now offset) (index + offset) := by
  constructor
  · intro member
    obtain ⟨offset, within, rfl⟩ := List.mem_mapIdx.mp member
    exact ⟨offset, _, List.getElem?_eq_getElem within, rfl⟩
  · rintro ⟨offset, item, found, rfl⟩
    obtain ⟨within, rfl⟩ := List.getElem?_eq_some_iff.mp found
    exact List.mem_mapIdx.mpr ⟨offset, within, rfl⟩

theorem key_offered {row : MovementRow} (member : row ∈ offered time now index admitted) :
    ∃ item ∈ admitted, ∃ number : Nat, index ≤ number ∧ row.legacyHash = some item.txHash ∧
      row.key = item.txHash ++ "-" ++ toString number := by
  obtain ⟨offset, item, found, rfl⟩ := mem_offered.mp member
  exact ⟨item, List.mem_of_getElem? found, index + offset, Nat.le_add_right .., rfl, rfl⟩

theorem nodup_keys_offered (time : Timestamp) (now : Nat → Timestamp) (index : Nat)
    (admitted : List Admitted) : ((offered time now index admitted).map (·.key)).Nodup := by
  -- The number tells the rows of a block apart, even if a hash ends in another one's number.
  induction admitted generalizing now index with
  | nil => exact .nil
  | cons item rest ih =>
      rw [offered_cons, List.map_cons, List.nodup_cons]
      refine ⟨?_, ih _ (index + 1)⟩
      intro taken
      obtain ⟨row, member, same⟩ := List.mem_map.mp taken
      obtain ⟨other, _, number, above, _, key⟩ := key_offered member
      have equal := (key_inj (key.symm.trans same)).2
      omega

theorem movement_entry {movement : Store.Movement}
    (fits : (entry time index item).movement? = some movement) (created : Timestamp) :
    movement.row created = item.row time created index := by
  obtain ⟨height, stored, made⟩ := Option.bind_eq_some_iff.mp fits
  cases made
  unfold Height.stored? at stored
  split at stored
  · cases stored
    rfl
  · cases stored

theorem filter_offered_snoc (created : Timestamp) (rest : List Admitted) :
    (offered time now (index + 1) rest).filter (fun row =>
        row.key ∉ (rows ++ [item.row time created index]).map (·.key)) =
      (offered time now (index + 1) rest).filter fun row => row.key ∉ rows.map (·.key) := by
  -- The rows after a row have other numbers, so its key is none of theirs.
  apply List.filter_congr
  intro row member
  obtain ⟨other, _, number, above, _, key⟩ := key_offered member
  have apart : row.key ≠ (item.row time created index).key := by
    intro equal
    have same := (key_inj (key.symm.trans equal)).2
    omega
  simp [apart]

theorem appendEntries_offered {count : Nat}
    (appended : Store.appendEntries now (entriesFrom time index admitted) rows =
      some (count, after)) :
    let added := (offered time now index admitted).filter fun row => row.key ∉ rows.map (·.key)
    after = rows ++ added ∧ count = added.length := by
  induction admitted generalizing now index rows count with
  | nil =>
      cases appended
      simp [offered]
  | cons item rest ih =>
      obtain ⟨movement, fits, tail⟩ := Option.bind_eq_some_iff.mp appended
      rw [movement_entry fits] at tail
      rw [offered_cons]
      by_cases taken : (item.row time (now 0) index).key ∈ rows.map (·.key)
      · rw [Store.addMovement_taken taken] at tail
        rw [List.filter_cons_of_neg (by simpa using taken)]
        exact ih tail
      · rw [Store.addMovement_free taken] at tail
        obtain ⟨⟨more, final⟩, appended, same⟩ := Option.map_eq_some_iff.mp tail
        cases same
        obtain ⟨rfl, rfl⟩ := ih appended
        rw [filter_offered_snoc, List.filter_cons_of_pos (by simpa using taken)]
        simp

theorem offered_all_free (unmet : ∀ item ∈ admitted, ∀ row ∈ rows, ¬ row.mentions item.txHash) :
    (offered time now index admitted).filter (fun row => row.key ∉ rows.map (·.key)) =
      offered time now index admitted := by
  rw [List.filter_eq_self]
  intro row member
  obtain ⟨item, present, number, _, _, key⟩ := key_offered member
  have free : row.key ∉ rows.map (·.key) := by
    intro taken
    obtain ⟨other, there, same⟩ := List.mem_map.mp taken
    exact unmet item present other there (.inr ⟨number, same.trans key⟩)
  simpa using free

theorem mentions_numbered {hash : String} {row : MovementRow} (numbered : Numbered rows)
    (member : row ∈ rows) : row.mentions hash ↔ row.legacyHash = some hash := by
  obtain ⟨bare, number, legacy, key⟩ := numbered row member
  constructor
  · rintro (same | ⟨other, same⟩)
    · exact same
    · rw [legacy, (key_inj (key.symm.trans same)).1]
  · exact .inl

theorem numbered_append {added : List MovementRow} (numbered : Numbered rows)
    (within : added ⊆ offered time now index admitted) : Numbered (rows ++ added) := by
  intro row member
  rcases List.mem_append.mp member with before | new
  · exact numbered row before
  · obtain ⟨item, _, number, _, legacy, key⟩ := key_offered (within new)
    exact ⟨item.txHash, number, legacy, key⟩

end Rows

section Recording

variable {settings : Settings} {resolve : Resolve} {account : String → Option Uuid}
  {history : History} {height : Nat} {mints : List Chain.Mint} {burns : List Chain.Transfer}
  {transfers : List Chain.MarkerTransfer} {start final : Store} {count : Nat}

def Entered (time : Timestamp) (admitted : List Admitted) (start : Store) (count : Nat)
    (final : Store) : Prop :=
  ∃ now,
    let added := (offered time now 0 admitted).filter fun row =>
      row.key ∉ start.movements.map (·.key)
    final = { start with movements := start.movements ++ added } ∧ count = added.length

theorem entered_of_append {time : Timestamp} {now : Nat → Timestamp} {admitted : List Admitted}
    (ran : (Store.Statement.append (entriesFrom time 0 admitted) now).run start =
      (.ok (some count), final)) : Entered time admitted start count final := by
  cases appended : Store.appendEntries now (entriesFrom time 0 admitted) start.movements with
  | none =>
      simp only [Store.Statement.run, appended] at ran
      cases ran
  | some grown =>
      simp only [Store.Statement.run, appended] at ran
      cases ran
      obtain ⟨rows, counted⟩ := appendEntries_offered appended
      exact ⟨now, by rw [rows], counted⟩

theorem keeps_recordBlock
    (directory : Consumer.Resolves history.answers (fun _ _ => True) True resolve account start) :
    (recordBlock settings resolve height mints burns transfers).Keeps history.answers
      (fun _ _ => True) (fun result final =>
        ∀ count, result = .ok count → Entered (history.block height).time
          (admittedBlock settings account mints burns transfers) start count final) start := by
  have fails : ∀ (failure : Failure) (count : Nat),
      (.error failure : Except Failure Nat) ≠ .ok count := by
    rintro failure count ⟨⟩
  have admits : (mapFailure ofStorage (admitBlock settings resolve mints burns transfers)).Keeps
      history.answers (fun _ _ => True)
      (Consumer.Told True (admittedBlock settings account mints burns transfers) start) start := by
    rw [keeps_mapFailure]
    refine (directory.admitBlock settings mints burns transfers).mono ?_
    rintro (failure | admitted) _ told <;> exact told
  refine Consumer.Told.bind admits ?_ fun failure _ count same => (fails failure count same).elim
  split
  · rename_i empty
    rintro count ⟨⟩
    rw [List.isEmpty_iff.mp empty]
    exact ⟨fun _ => (history.block height).time, by simp [offered], by simp [offered]⟩
  · refine Consumer.Told.bind (Consumer.keeps_fetchBlock id (fun _ => trivial) trivial) ?_
      fun failure _ count same => (fails failure count same).elim
    intro now asked answered
    obtain rfl := answered
    refine ⟨trivial, ?_⟩
    refine (keeps_bind (Activity.storage ofStorage (.append _ now)) _ _).mpr ?_
    rw [keeps_storage]
    intro reply final answered
    refine ⟨trivial, ?_⟩
    cases reply with
    | error fault => exact fun count same => (fails _ count same).elim
    | ok written =>
        rcases answered with ⟨_, ran⟩ | ⟨⟨_, failed⟩, _⟩
        · cases written with
          | none => exact fun count same => (fails _ count same).elim
          | some written =>
              rintro count ⟨⟩
              exact entered_of_append ran
        · cases failed

/-- A recording that succeeds leaves all rows of the ledger as they were. It offers one row for
each admitted movement, in order, adds those with a free key and tells their number. No two of
them share a key, and all of them are new to a ledger without their transactions. -/
theorem recordBlock_adds_what_is_free
    (directory : Consumer.Resolves history.answers (fun _ _ => True) True resolve account start)
    (recorded : Activity.Run history.answers (fun _ => False)
      (recordBlock settings resolve height mints burns transfers) start (.done (.ok count))
      final) :
    let admitted := admittedBlock settings account mints burns transfers
    ∃ now,
      let rows := offered (history.block height).time now 0 admitted
      let added := rows.filter fun row => row.key ∉ start.movements.map (·.key)
      final = { start with movements := start.movements ++ added } ∧ count = added.length ∧
      (rows.map (·.key)).Nodup ∧
      ((∀ item ∈ admitted, ∀ row ∈ start.movements, ¬ row.mentions item.txHash) → added = rows) ∧
      (Numbered start.movements → Numbered final.movements ∧
        ((∀ item ∈ admitted, ∀ row ∈ start.movements, row.legacyHash ≠ some item.txHash) →
          added = rows)) := by
  intro admitted
  obtain ⟨now, rfl, counted⟩ := recorded.keeps_once (keeps_recordBlock directory) count rfl
  refine ⟨now, rfl, counted, nodup_keys_offered .., offered_all_free, fun numbered => ?_⟩
  refine ⟨numbered_append numbered (List.filter_subset_self _), fun unmet => ?_⟩
  exact offered_all_free fun item member row present =>
    mt (mentions_numbered numbered present).mp (unmet item member row present)

/-- The first of two numbers is taken, so only the second row is new. -/
theorem second_number_is_free : ∃ now,
    let movement (sender amount : String) : Admitted :=
      ⟨"T", 1, sender, some zeroStamp.id, "x", none, amount, "b", .transfer⟩
    let added := (offered zeroStamp.time now 0 [movement "a" "1", movement "y" "2"]).filter
      fun row => row.key ∉ ["T-0"]
    recordedTwice = { twoLinks with movements := twoLinks.movements ++ added } ∧
      1 = added.length := by
  let intake := Intake.ofStore fromGenesis uneventful twoLinks
  have directory : Consumer.Resolves uneventful.answers (fun _ _ => True) True Directory.resolve
      (Directory.account twoLinks.registrations) twoLinks :=
    Consumer.resolves_directory (intake.conduct_answers 0) twoLinks trivial ⟨rfl, rfl⟩ trivial
  obtain ⟨now, final, counted, _⟩ :=
    recordBlock_adds_what_is_free directory (recorded_twice.mono (uneventful.answers_steady 0))
  have nobody : Directory.account twoLinks.registrations "x" = none := rfl
  have admitted := admitted_twoTransfers nobody (account_linked (by simp [twoLinks, linked]) rfl)
  rw [account_linked (by simp [twoLinks, linked]) rfl] at admitted
  simp only [Intake.admitted, Intake.ofStore] at admitted
  rw [admitted] at final counted
  exact ⟨now, final, counted⟩

end Recording

end Ledger

end Settlement
