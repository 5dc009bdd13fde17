import Mathlib.Data.Nat.Init
import Settlement.Consumer
import Settlement.Proofs.Store.Readable

/-!
What the batches of a history leave in the tables, apart from generated identifiers and
times. A batch is a list of steps: one for every observed event, then one for its ledger
entries. A step that was taken once changes nothing when it is taken again, however many
steps came after it, so a batch may be begun over and over.
-/

namespace Settlement

namespace Store

def MigrationRow.facts (row : MigrationRow) : String × String := (row.txHash, row.codeId)

structure DepositFacts where
  txHash : String
  fromAddress : String
  toAddress : String
  denom : String
  amount : String
  height : Cell
  deriving DecidableEq

def DepositRow.facts (row : DepositRow) : DepositFacts :=
  ⟨row.txHash, row.fromAddress, row.toAddress, row.denom, row.amount, row.height⟩

def MovementRow.facts (row : MovementRow) : MovementRow := { row with created := "" }

end Store

structure Records where
  migrations : List (String × String)
  deposits : List Store.DepositFacts
  movements : List Store.MovementRow
  deriving DecidableEq

def Store.records (store : Store) : Records where
  migrations := store.migrations.map Store.MigrationRow.facts
  deposits := store.deposits.map Store.DepositRow.facts
  movements := store.movements.map Store.MovementRow.facts

structure Records.Within (before after : Records) : Prop where
  migrations : ∀ hash, hash ∈ before.migrations.map Prod.fst → hash ∈ after.migrations.map Prod.fst
  deposits : ∀ hash, hash ∈ before.deposits.map (·.txHash) → hash ∈ after.deposits.map (·.txHash)
  movements : ∀ key, key ∈ before.movements.map (·.key) → key ∈ after.movements.map (·.key)

theorem Records.Within.refl (records : Records) : records.Within records :=
  ⟨fun _ => id, fun _ => id, fun _ => id⟩

theorem Records.Within.trans {first second third : Records} (left : first.Within second)
    (right : second.Within third) : first.Within third :=
  ⟨fun hash member => right.migrations hash (left.migrations hash member),
    fun hash member => right.deposits hash (left.deposits hash member),
    fun key member => right.movements key (left.movements key member)⟩

/-- The account that the latest registration of an address names, if it can be read. -/
def Directory.account (rows : List Store.RegistrationRow) (address : String) : Option Uuid :=
  if address.isEmpty then none
  else
    match Store.latestRegistration rows address with
    | .ok (some registration) => some registration.bankAccount
    | _ => none

namespace Ledger

variable (settings : Settings) (account : String → Option Uuid)

def admittedMint (mint : Chain.Mint) : Option Admitted :=
  if mint.withdrawAddress.isEmpty || mint.memberId.isEmpty then none
  else (account mint.withdrawAddress).map fun bank =>
    ⟨mint.txHash, mint.height, mint.memberId, none, mint.withdrawAddress, some bank,
      mint.amount, mint.withdrawDenom, .mint⟩

def admittedBurn (transfer : Chain.Transfer) : Option Admitted :=
  if transfer.sender.isEmpty || transfer.recipient.isEmpty then none
  else if transfer.recipient ≠ settings.manager then none
  else (account transfer.sender).map fun bank =>
    ⟨transfer.txHash, transfer.height, transfer.sender, some bank, transfer.recipient, none,
      transfer.amount, transfer.denom, .burn⟩

def admittedTransfer (transfer : Chain.MarkerTransfer) : Option Admitted :=
  if transfer.fromAddress.isEmpty || transfer.toAddress.isEmpty ||
      transfer.denom ≠ settings.bankDenom then none
  else if (account transfer.fromAddress).isNone && (account transfer.toAddress).isNone then none
  else some ⟨transfer.txHash, transfer.height, transfer.fromAddress,
    account transfer.fromAddress, transfer.toAddress, account transfer.toAddress,
    transfer.amount, transfer.denom, .transfer⟩

/-- The movements of a block that a directory admits, in the order of their numbers. -/
def admittedBlock (mints : List Chain.Mint) (burns : List Chain.Transfer)
    (transfers : List Chain.MarkerTransfer) : List Admitted :=
  mints.filterMap (admittedMint account) ++ burns.filterMap (admittedBurn settings account) ++
    transfers.filterMap (admittedTransfer settings account)

end Ledger

namespace Store

/-- What appending leaves of the rows, unless a height does not fit. -/
def appendFacts : List Entry → List MovementRow → Option (List MovementRow)
  | [], rows => some rows
  | entry :: rest, rows => do
      let movement ← entry.movement?
      appendFacts rest ((addMovement rows (movement.row movement.time).facts).getD rows)

end Store

/-- One batch for every height, and the chain's answers whenever it gives one. -/
structure History where
  batch : Nat → Chain.Batch
  batch_height : ∀ height, (batch height).height = height
  transaction : String → Option Chain.TxResponse
  block : Nat → Chain.BlockHeader

def History.confirms (history : History) (txHash : String) : Bool :=
  match history.transaction txHash with
  | some tx => !tx.isFailed
  | none => false

/-- All that decides which records a consumer makes. -/
structure Intake where
  settings : Consumer.Settings
  history : History
  tracked : List String
  registrations : List Store.RegistrationRow

namespace Intake

open Consumer (Observed)

/-- What a consumer goes by when it meets these tables. -/
def ofStore (settings : Consumer.Settings) (history : History) (store : Store) : Intake where
  settings
  history
  tracked := store.tracked.map (·.txHash)
  registrations := store.registrations

variable (intake : Intake)

def acceptMigration (migration : Chain.Migration) (records : Records) : Records :=
  if migration.txHash ∈ intake.tracked ∨
      migration.txHash ∈ records.migrations.map Prod.fst ∨
      intake.history.confirms migration.txHash = false then records
  else { records with
    migrations := records.migrations ++ [(migration.txHash, migration.codeId)] }

def acceptTransfer (transfer : Chain.Transfer) (records : Records) : Option Records :=
  if transfer.txHash ∈ intake.tracked ∨
      Consumer.isBankBound intake.settings transfer = false ∨
      transfer.txHash ∈ records.deposits.map (·.txHash) ∨
      intake.history.confirms transfer.txHash = false then some records
  else (Height.stored? transfer.height).map fun height => { records with
    deposits := records.deposits ++ [⟨transfer.txHash, transfer.sender, transfer.recipient,
      transfer.denom, transfer.amount, .number height⟩] }

def accept : Observed → Records → Option Records
  | .migration migration, records => some (intake.acceptMigration migration records)
  | .transfer transfer, records => intake.acceptTransfer transfer records
  | .other _, records => some records

def observed (batch : Chain.Batch) : List Observed :=
  Consumer.observe intake.settings.contract batch (batch.transfers intake.settings.contract)

def admitted (batch : Chain.Batch) : List Ledger.Admitted :=
  Ledger.admittedBlock intake.settings.ledger (Directory.account intake.registrations)
    (batch.mints intake.settings.contract) (batch.transfers intake.settings.contract)
    batch.markerTransfers

def entries (batch : Chain.Batch) : List Store.Entry :=
  Ledger.entriesFrom (intake.history.block batch.height).time 0 (intake.admitted batch)

def append (batch : Chain.Batch) (records : Records) : Option Records :=
  (Store.appendFacts (intake.entries batch) records.movements).map fun movements =>
    { records with movements }

/-- The steps of a batch: its events one by one, then its ledger entries at once. -/
def steps (batch : Chain.Batch) : List (Records → Option Records) :=
  (intake.observed batch).map intake.accept ++ [intake.append batch]

end Intake

def progress (steps : List (Records → Option Records)) (records : Records) (count : Nat) :
    Option Records :=
  (steps.take count).foldlM (fun records step => step records) records

namespace Intake

/-- The records after all batches from the epoch on up to the given number of them, as far as
the heights of the batches and of what they admit can be stored. -/
def reference (intake : Intake) (records : Records) : (batches : Nat) → Option Records
  | 0 => if intake.settings.epoch ≤ Text.Decimal.maxSigned then some records else none
  | batches + 1 => do
      let before ← reference intake records batches
      let height := intake.settings.epoch + (batches + 1)
      if height ≤ Text.Decimal.maxSigned then
        let steps := intake.steps (intake.history.batch height)
        progress steps before steps.length
      else none

end Intake

namespace Store

theorem keys_appendOne (rows : List MovementRow) (row : MovementRow) :
    ∀ key, key ∈ (((addMovement rows row).getD rows).map (·.key)) ↔
      key ∈ rows.map (·.key) ∨ key = row.key := by
  intro key
  by_cases taken : row.key ∈ rows.map (·.key)
  · rw [addMovement_taken taken, Option.getD_none]
    constructor
    · exact Or.inl
    · rintro (present | rfl)
      · exact present
      · exact taken
  · rw [addMovement_free taken, Option.getD_some]
    simp

theorem Entry.key_movement {entry : Entry} {movement : Movement}
    (fits : entry.movement? = some movement) : movement.key = entry.key := by
  unfold Entry.movement? at fits
  obtain ⟨height, _, made⟩ := Option.bind_eq_some_iff.mp fits
  cases made
  rfl

theorem appendFacts_keys {entries : List Entry} {rows after : List MovementRow}
    (appended : appendFacts entries rows = some after) (key : String) :
    key ∈ after.map (·.key) ↔ key ∈ rows.map (·.key) ∨ key ∈ entries.map Entry.key := by
  induction entries generalizing rows with
  | nil =>
      cases appended
      simp
  | cons entry rest ih =>
      obtain ⟨movement, fits, tail⟩ := Option.bind_eq_some_iff.mp appended
      rw [ih tail, keys_appendOne]
      simp only [List.map_cons, List.mem_cons, MovementRow.facts, Movement.row,
        Entry.key_movement fits, or_assoc]

theorem appendFacts_again {entries : List Entry} {rows after other : List MovementRow}
    (appended : appendFacts entries rows = some after)
    (taken : ∀ key ∈ entries.map Entry.key, key ∈ other.map (·.key)) :
    appendFacts entries other = some other := by
  induction entries generalizing rows with
  | nil => rfl
  | cons entry rest ih =>
      obtain ⟨movement, fits, tail⟩ := Option.bind_eq_some_iff.mp appended
      have occupied : addMovement other (movement.row movement.time).facts = none := by
        refine addMovement_taken ?_
        change movement.key ∈ _
        rw [Entry.key_movement fits]
        exact taken entry.key List.mem_cons_self
      simp only [appendFacts, fits, Option.bind_eq_bind, Option.bind_some, occupied,
        Option.getD_none]
      exact ih tail fun key inRest => taken key (List.mem_cons_of_mem _ inRest)

end Store

namespace Intake

variable {intake : Intake} {records after later : Records}

theorem accept_within {observed : Consumer.Observed}
    (accepted : intake.accept observed records = some after) : records.Within after := by
  cases observed with
  | migration migration =>
      cases accepted
      unfold acceptMigration
      split
      · exact .refl records
      · exact ⟨by simp +contextual, fun _ => id, fun _ => id⟩
  | transfer transfer =>
      simp only [accept, acceptTransfer] at accepted
      split at accepted
      · cases accepted
        exact .refl records
      · obtain ⟨height, _, rfl⟩ := Option.map_eq_some_iff.mp accepted
        exact ⟨fun _ => id, by simp +contextual, fun _ => id⟩
  | other =>
      cases accepted
      exact .refl records

theorem accept_again {observed : Consumer.Observed}
    (accepted : intake.accept observed records = some after) (grown : after.Within later) :
    intake.accept observed later = some later := by
  cases observed with
  -- The event was passed over then and still is, or its row is there by now.
  | migration migration =>
      simp only [accept, acceptMigration, Option.some.injEq] at accepted ⊢
      refine if_pos ?_
      split at accepted
      · rename_i passed
        subst accepted
        exact passed.imp_right (Or.imp_left (grown.migrations _))
      · subst accepted
        exact Or.inr (Or.inl (grown.migrations _ (by simp)))
  | transfer transfer =>
      simp only [accept, acceptTransfer] at accepted ⊢
      refine if_pos ?_
      split at accepted
      · rename_i passed
        cases accepted
        exact passed.imp_right (Or.imp_right (Or.imp_left (grown.deposits _)))
      · obtain ⟨height, _, rfl⟩ := Option.map_eq_some_iff.mp accepted
        exact Or.inr (Or.inr (Or.inl (grown.deposits _ (by simp))))
  | other => rfl

theorem append_within {batch : Chain.Batch}
    (appended : intake.append batch records = some after) : records.Within after := by
  obtain ⟨movements, written, rfl⟩ := Option.map_eq_some_iff.mp appended
  exact ⟨fun _ => id, fun _ => id,
    fun key member => (Store.appendFacts_keys written key).mpr (Or.inl member)⟩

theorem append_again {batch : Chain.Batch}
    (appended : intake.append batch records = some after) (grown : after.Within later) :
    intake.append batch later = some later := by
  obtain ⟨movements, written, rfl⟩ := Option.map_eq_some_iff.mp appended
  have again : Store.appendFacts (intake.entries batch) later.movements = some later.movements :=
    Store.appendFacts_again written fun key member =>
      grown.movements key ((Store.appendFacts_keys written key).mpr (Or.inr member))
  simp [append, again]

/-- Both kinds of steps only add, and add nothing when they are taken again. -/
theorem step_again {batch : Chain.Batch} {step : Records → Option Records}
    (member : step ∈ intake.steps batch) (taken : step records = some after) :
    records.Within after ∧ ∀ later, after.Within later → step later = some later := by
  rcases List.mem_append.mp member with event | ledger
  · obtain ⟨observed, _, rfl⟩ := List.mem_map.mp event
    exact ⟨accept_within taken, fun later => accept_again taken⟩
  · obtain rfl := List.mem_singleton.mp ledger
    exact ⟨append_within taken, fun later => append_again taken⟩

end Intake

section Progress

variable {steps : List (Records → Option Records)} {records : Records}

theorem progress_zero : progress steps records 0 = some records := rfl

theorem progress_succ {count : Nat} {step : Records → Option Records}
    (next : steps[count]? = some step) :
    progress steps records (count + 1) = (progress steps records count).bind step := by
  unfold progress
  rw [List.take_add_one, next, List.foldlM_append]
  cases (steps.take count).foldlM (fun records step => step records) records with
  | none => rfl
  | some records => simp

theorem progress_reaches {first last : Nat} {after : Records} (le : first ≤ last)
    (bound : last ≤ steps.length) (late : progress steps records last = some after) :
    ∃ before, progress steps records first = some before := by
  induction last, le using Nat.le_induction generalizing after with
  | base => exact ⟨after, late⟩
  | succ last _ ih =>
      rw [progress_succ (List.getElem?_eq_getElem bound)] at late
      obtain ⟨middle, reached, _⟩ := Option.bind_eq_some_iff.mp late
      exact ih (Nat.le_of_lt bound) reached

theorem progress_within {intake : Intake} {batch : Chain.Batch} {first last : Nat}
    {before after : Records} (le : first ≤ last)
    (bound : last ≤ (intake.steps batch).length)
    (early : progress (intake.steps batch) records first = some before)
    (late : progress (intake.steps batch) records last = some after) : before.Within after := by
  induction last, le using Nat.le_induction generalizing after with
  | base =>
      rw [early] at late
      cases late
      exact .refl before
  | succ last _ ih =>
      have inside : last < (intake.steps batch).length := bound
      rw [progress_succ (List.getElem?_eq_getElem inside)] at late
      obtain ⟨middle, reached, taken⟩ := Option.bind_eq_some_iff.mp late
      have stepped := Intake.step_again (List.getElem_mem inside) taken
      exact (ih (Nat.le_of_lt inside) reached).trans stepped.1

theorem progress_again {intake : Intake} {batch : Chain.Batch} {index count : Nat}
    {after : Records} {step : Records → Option Records} (earlier : index < count)
    (bound : count ≤ (intake.steps batch).length)
    (next : (intake.steps batch)[index]? = some step)
    (reached : progress (intake.steps batch) records count = some after) :
    step after = some after := by
  -- The records right after the step have only grown since.
  obtain ⟨middle, stepped⟩ := progress_reaches (Nat.succ_le_of_lt earlier) bound reached
  have grown := progress_within (Nat.succ_le_of_lt earlier) bound stepped reached
  rw [progress_succ next] at stepped
  obtain ⟨before, _, taken⟩ := Option.bind_eq_some_iff.mp stepped
  exact (Intake.step_again (List.mem_of_getElem? next) taken).2 after grown

end Progress
end Settlement
