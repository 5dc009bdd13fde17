import Settlement.Proofs.Activity.Safety

/-!
What the parts of the consumer may ask, and what they may end with, whatever they are told.
-/

namespace Settlement

namespace Activity

variable {ε α : Type} {within wider : Request → Prop}

theorem Asks.mono {activity : Activity ε α} (asks : activity.Asks within)
    (implies : ∀ request, within request → wider request) : activity.Asks wider := by
  induction activity with
  | done result => trivial
  | ask request next ih => exact ⟨implies request asks.1, fun reply => ih reply (asks.2 reply)⟩

theorem Asks.discard {activity : Activity ε α} (asks : activity.Asks within) :
    Asks within (discard activity) :=
  asks.bind fun _ => trivial

/-- An activity that asks nothing but the directory and fails when the directory does. -/
def Consults : Activity ε α → Prop
  | .done _ => True
  | .ask (.storage (.registration _)) next =>
      (∀ fault, ∃ failure, next (.error fault) = .done (.error failure)) ∧
        ∀ found, (next (.ok found)).Consults
  | .ask _ _ => False

section Consults

variable {β δ : Type}

theorem Consults.ask {request : Request} {next : request.Reply → Activity ε α}
    (consults : Consults (.ask request next)) :
    ∃ address, request = .storage (.registration address) := by
  cases request with
  | storage statement =>
      cases statement with
      | registration address => exact ⟨address, rfl⟩
      | _ => cases consults
  | _ => cases consults

theorem Consults.bind {first : Activity ε α} {next : α → Activity ε β}
    (consults : first.Consults) (rest : ∀ value, (next value).Consults) :
    (first >>= next).Consults := by
  change (first.bind next).Consults
  induction first with
  | done result =>
      cases result with
      | ok value => exact rest value
      | error failure => trivial
  | ask request answer ih =>
      obtain ⟨address, rfl⟩ := consults.ask
      obtain ⟨fails, goesOn⟩ := consults
      refine ⟨fun fault => ?_, fun found => ih (.ok found) (goesOn found)⟩
      obtain ⟨failure, ended⟩ := fails fault
      exact ⟨failure, congrArg (fun rest => rest.bind next) ended⟩

theorem Consults.mapFailure {activity : Activity ε α} (view : ε → δ)
    (consults : activity.Consults) : (activity.mapFailure view).Consults := by
  induction activity with
  | done result => cases result <;> trivial
  | ask request next ih =>
      obtain ⟨address, rfl⟩ := consults.ask
      obtain ⟨fails, goesOn⟩ := consults
      refine ⟨fun fault => ?_, fun found => ih (.ok found) (goesOn found)⟩
      obtain ⟨failure, ended⟩ := fails fault
      exact ⟨view failure, congrArg (fun rest => rest.mapFailure view) ended⟩

theorem Consults.asks {activity : Activity ε α} (consults : activity.Consults)
    (allowed : ∀ address, within (.storage (.registration address))) : activity.Asks within := by
  induction activity with
  | done result => trivial
  | ask request next ih =>
      obtain ⟨address, rfl⟩ := consults.ask
      obtain ⟨fails, goesOn⟩ := consults
      refine ⟨allowed address, fun reply => ?_⟩
      cases reply with
      | error fault =>
          obtain ⟨failure, ended⟩ := fails fault
          rw [ended]
          trivial
      | ok found => exact ih (.ok found) (goesOn found)

end Consults

section Yields

variable {β δ : Type} {holds : α → Prop}

/-- Whatever the replies are, every value that it ends with is such a one. -/
def Yields (holds : α → Prop) : Activity ε α → Prop
  | .done (.ok value) => holds value
  | .done (.error _) => True
  | .ask _ next => ∀ reply, (next reply).Yields holds

theorem Yields.bind {final : β → Prop} {first : Activity ε α} {next : α → Activity ε β}
    (yields : first.Yields holds) (rest : ∀ value, holds value → (next value).Yields final) :
    (first >>= next).Yields final := by
  change (first.bind next).Yields final
  induction first with
  | done result =>
      cases result with
      | ok value => exact rest value yields
      | error failure => trivial
  | ask request answer ih => exact fun reply => ih reply (yields reply)

theorem yields_any (activity : Activity ε α) : activity.Yields fun _ => True := by
  induction activity with
  | done result => cases result <;> trivial
  | ask request next ih => exact ih

theorem Yields.mapFailure {activity : Activity ε α} (view : ε → δ)
    (yields : activity.Yields holds) : (activity.mapFailure view).Yields holds := by
  induction activity with
  | done result => cases result <;> exact yields
  | ask request next ih => exact fun reply => ih reply (yields reply)

theorem Asks.bind_yields {first : Activity ε α} {next : α → Activity ε β}
    (asks : first.Asks within) (yields : first.Yields holds)
    (rest : ∀ value, holds value → (next value).Asks within) : (first >>= next).Asks within := by
  change (first.bind next).Asks within
  induction first with
  | done result =>
      cases result with
      | ok value => exact rest value yields
      | error failure => trivial
  | ask request answer ih => exact ⟨asks.1, fun reply => ih reply (asks.2 reply) (yields reply)⟩

end Yields

end Activity

namespace Consumer

open Activity

theorem asks_forEach {α : Type} {within : Request → Prop} {handle : α → Activity Failure Unit}
    {items : List α} (asks : ∀ item ∈ items, (handle item).Asks within) :
    (forEach handle items).Asks within := by
  induction items with
  | nil => trivial
  | cons item rest ih =>
      exact (asks item List.mem_cons_self).bind fun _ =>
        ih fun other member => asks other (List.mem_cons_of_mem _ member)

theorem asks_storedHeight {within : Request → Prop} (height : Nat) :
    (storedHeight height).Asks within := by
  unfold storedHeight
  split <;> trivial

theorem asks_openCursor {within : Request → Prop} (settings : Settings)
    (reads : within (.storage (.cursor settings.stream))) (stamps : within .stamp)
    (adds : ∀ height now, within (.storage (.addCursor settings.stream height now))) :
    (openCursor settings).Asks within := by
  refine ⟨reads, fun reply => ?_⟩
  rcases reply with fault | _ | cursor
  · trivial
  · apply (asks_storedHeight settings.epoch).bind
    intro epoch
    refine ⟨stamps, fun stamp => (asks_storage (adds epoch stamp.time)).bind fun _ => ?_⟩
    refine ⟨reads, fun reply => ?_⟩
    rcases reply with fault | _ | cursor <;> trivial
  · trivial

def Admits : Request → Prop
  | .storage (.migration _) | .storage (.addMigration _) | .storage (.deposit _) |
    .storage (.addDeposit _) | .transaction _ | .stamp => True
  | _ => False

theorem asks_isConfirmed (txHash : String) : (isConfirmed txHash).Asks Admits := by
  refine ⟨trivial, fun reply => ?_⟩
  rcases reply with failure | _ | tx <;> trivial

theorem asks_admitMigration (migration : Chain.Migration) :
    (admitMigration migration).Asks Admits := by
  apply (asks_isConfirmed migration.txHash).bind
  intro confirmed
  cases confirmed with
  | false => trivial
  | true => exact ⟨trivial, fun stamp => Asks.discard (asks_storage trivial)⟩

theorem asks_admitTransfer (transfer : Chain.Transfer) :
    (admitTransfer transfer).Asks Admits := by
  apply (asks_isConfirmed transfer.txHash).bind
  intro confirmed
  cases confirmed with
  | false => trivial
  | true =>
      refine ⟨trivial, fun stamp => ?_⟩
      cases Height.stored? transfer.height with
      | none => trivial
      | some height => exact Asks.discard (asks_storage trivial)

theorem asks_admitObserved (settings : Settings) (observed : Observed) :
    (admitObserved settings observed).Asks Admits := by
  cases observed with
  | migration migration =>
      refine ⟨trivial, fun reply => ?_⟩
      rcases reply with fault | _ | record
      · trivial
      · exact asks_admitMigration migration
      · trivial
  | transfer transfer =>
      simp only [admitObserved]
      split
      · refine ⟨trivial, fun reply => ?_⟩
        rcases reply with fault | _ | record
        · trivial
        · exact asks_admitTransfer transfer
        · trivial
      · trivial
  | other txHash => trivial

def Reconciles : Request → Prop
  | .storage (.settle ..) | .transaction _ | .stamp => True
  | _ => False

theorem asks_reconcile (tracked : Store.Tracked) : (reconcile tracked).Asks Reconciles := by
  unfold reconcile
  split
  · trivial
  · exact ⟨trivial, fun reply => ⟨trivial, fun stamp => asks_storage trivial⟩⟩

def Attends : Request → Prop
  | .storage (.tracked _) | .storage (.settle ..) => True
  | request => Admits request

theorem attends_of_admits (request : Request) (admits : Admits request) : Attends request := by
  unfold Attends
  split <;> trivial

theorem attends_of_reconciles (request : Request) (reconciles : Reconciles request) :
    Attends request := by
  cases request with
  | storage statement => cases statement <;> trivial
  | _ => trivial

theorem asks_handleObserved (settings : Settings) (observed : Observed) :
    (handleObserved settings observed).Asks Attends := by
  refine ⟨trivial, fun reply => ?_⟩
  rcases reply with fault | _ | tracked
  · trivial
  · exact (asks_admitObserved settings observed).mono attends_of_admits
  · exact (asks_reconcile tracked).mono attends_of_reconciles

theorem asks_handleEvents (settings : Settings) (batch : Chain.Batch)
    (transfers : List Chain.Transfer) : (handleEvents settings batch transfers).Asks Attends :=
  asks_forEach fun observed _ => asks_handleObserved settings observed

def IsDepositOf (transfer : Chain.Transfer) (record : Store.Deposit) : Prop :=
  ∃ (stamp : Stamp) (height : Int), Height.stored? transfer.height = some height ∧
    record = ⟨stamp.id, transfer.sender, transfer.recipient, transfer.denom, transfer.amount,
      height, transfer.txHash, .inserted, stamp.time, stamp.time⟩

/-- The questions about an event that is not tracked. They are about its own transaction, and
add no row but its own. -/
def Admission (settings : Settings) (observed : Observed) : Request → Prop
  | .storage (.addMigration record) =>
      ∃ migration, observed = .migration migration ∧ record.txHash = migration.txHash
  | .storage (.addDeposit record) => ∃ transfer, observed = .transfer transfer ∧
      isBankBound settings transfer = true ∧ IsDepositOf transfer record
  | .transaction txHash => txHash = observed.txHash
  | request => Admits request

theorem admission_confirmed {settings : Settings} {observed : Observed}
    {insert : Stamp → Activity Failure Unit}
    (inserts : ∀ stamp, (insert stamp).Asks (Admission settings observed)) :
    Asks (Admission settings observed) (do
      if ← isConfirmed observed.txHash then
        let stamp ← Activity.request .stamp
        insert stamp) := by
  apply Asks.bind (α := Bool)
  · refine ⟨rfl, fun reply => ?_⟩
    rcases reply with failure | _ | tx <;> trivial
  · intro confirmed
    cases confirmed with
    | false => trivial
    | true => exact ⟨trivial, inserts⟩

theorem admission_admitObserved (settings : Settings) (observed : Observed) :
    (admitObserved settings observed).Asks (Admission settings observed) := by
  cases observed with
  | migration migration =>
      refine ⟨trivial, fun reply => ?_⟩
      rcases reply with fault | _ | record
      · trivial
      · exact admission_confirmed fun stamp => (asks_storage ⟨migration, rfl, rfl⟩).discard
      · trivial
  | transfer transfer =>
      simp only [admitObserved]
      split
      · rename_i bound
        refine ⟨trivial, fun reply => ?_⟩
        rcases reply with fault | _ | record
        · trivial
        · refine admission_confirmed fun stamp => ?_
          cases fits : Height.stored? transfer.height with
          | none => trivial
          | some height =>
              exact (asks_storage ⟨transfer, rfl, bound, stamp, height, fits, rfl⟩).discard
        · trivial
      · trivial
  | other txHash => trivial

def Serves (settings : Settings) (observed : Observed) (request : Request) : Prop :=
  request = .storage (.tracked observed.txHash) ∨ Reconciles request ∨
    Admission settings observed request

theorem serves_handleObserved (settings : Settings) (observed : Observed) :
    (handleObserved settings observed).Asks (Serves settings observed) := by
  refine ⟨.inl rfl, fun reply => ?_⟩
  rcases reply with fault | _ | tracked
  · trivial
  · exact (admission_admitObserved settings observed).mono fun _ admission => .inr (.inr admission)
  · exact (asks_reconcile tracked).mono fun _ reconciles => .inr (.inl reconciles)

section Directory

theorem consults_resolve (address : String) : (Directory.resolve address).Consults := by
  unfold Directory.resolve
  split
  · trivial
  · exact ⟨fun fault => ⟨fault, rfl⟩, fun _ => trivial⟩

section Closed

variable (holds : ∀ {α : Type}, Activity Store.Fault α → Prop) {resolve : Ledger.Resolve}
  (ends : ∀ {α : Type} (value : α), holds (pure value))
  (binds : ∀ {α β : Type} {first : Activity Store.Fault α} {next : α → Activity Store.Fault β},
    holds first → (∀ value, holds (next value)) → holds (first >>= next))
  (directory : ∀ address, holds (resolve address))

include ends binds

theorem admitAll_holds {α : Type} {admission : α → Activity Store.Fault (Option Ledger.Admitted)}
    (admits : ∀ item, holds (admission item)) (items : List α) :
    holds (Ledger.admitAll admission items) := by
  induction items with
  | nil => exact ends []
  | cons item rest ih => exact binds (admits item) fun _ => binds ih fun _ => ends _

include directory

theorem admitMint_holds (mint : Chain.Mint) : holds (Ledger.admitMint resolve mint) := by
  unfold Ledger.admitMint
  split
  · exact ends none
  · exact binds (directory _) fun _ => ends _

theorem admitBurn_holds (settings : Ledger.Settings) (transfer : Chain.Transfer) :
    holds (Ledger.admitBurn settings resolve transfer) := by
  unfold Ledger.admitBurn
  split
  · exact ends none
  · split
    · exact ends none
    · exact binds (directory _) fun _ => ends _

theorem admitTransfer_holds (settings : Ledger.Settings) (transfer : Chain.MarkerTransfer) :
    holds (Ledger.admitTransfer settings resolve transfer) := by
  unfold Ledger.admitTransfer
  split
  · exact ends none
  · refine binds (directory _) fun _ => binds (directory _) fun _ => ?_
    split <;> exact ends _

/-- What holds of every activity of the directory, and of those that are put together of such ones,
holds of the admission of a block. -/
theorem admitBlock_holds (settings : Ledger.Settings) (mints : List Chain.Mint)
    (burns : List Chain.Transfer) (transfers : List Chain.MarkerTransfer) :
    holds (Ledger.admitBlock settings resolve mints burns transfers) := by
  refine binds (admitAll_holds holds ends binds ?_ mints) fun _ =>
    binds (admitAll_holds holds ends binds ?_ burns) fun _ =>
      binds (admitAll_holds holds ends binds ?_ transfers) fun _ => ends _
  · exact admitMint_holds holds ends binds directory
  · exact admitBurn_holds holds ends binds directory settings
  · exact admitTransfer_holds holds ends binds directory settings

end Closed

theorem consults_admitBlock (settings : Ledger.Settings) (mints : List Chain.Mint)
    (burns : List Chain.Transfer) (transfers : List Chain.MarkerTransfer) :
    (Ledger.admitBlock settings Directory.resolve mints burns transfers).Consults :=
  admitBlock_holds Consults (fun _ => trivial) .bind consults_resolve settings mints burns transfers

end Directory

section Admitted

variable {resolve : Ledger.Resolve} {hashes : List String}

theorem yields_admitAll {α : Type} {admission : α → Activity Store.Fault (Option Ledger.Admitted)}
    {items : List α}
    (yields : ∀ item ∈ items, (admission item).Yields fun found =>
      ∀ made ∈ found, made.txHash ∈ hashes) :
    (Ledger.admitAll admission items).Yields fun admitted =>
      ∀ made ∈ admitted, made.txHash ∈ hashes := by
  induction items with
  | nil => exact fun made member => absurd member List.not_mem_nil
  | cons item rest ih =>
      refine (yields item List.mem_cons_self).bind fun first here => ?_
      refine (ih fun other member => yields other (List.mem_cons_of_mem _ member)).bind ?_
      intro others there made member
      rcases List.mem_append.mp member with new | later
      · exact here made (Option.mem_toList.mp new)
      · exact there made later

theorem yields_admitMint {mint : Chain.Mint} (known : mint.txHash ∈ hashes) :
    (Ledger.admitMint resolve mint).Yields fun found => ∀ made ∈ found, made.txHash ∈ hashes := by
  unfold Ledger.admitMint
  split
  · exact fun made member => absurd member (Option.not_mem_none made)
  · refine (yields_any _).bind fun bank _ made member => ?_
    obtain ⟨account, _, rfl⟩ := Option.map_eq_some_iff.mp member
    exact known

theorem yields_admitBurn {settings : Ledger.Settings} {transfer : Chain.Transfer}
    (known : transfer.txHash ∈ hashes) : (Ledger.admitBurn settings resolve transfer).Yields
      fun found => ∀ made ∈ found, made.txHash ∈ hashes := by
  unfold Ledger.admitBurn
  split
  · exact fun made member => absurd member (Option.not_mem_none made)
  · split
    · exact fun made member => absurd member (Option.not_mem_none made)
    · refine (yields_any _).bind fun bank _ made member => ?_
      obtain ⟨account, _, rfl⟩ := Option.map_eq_some_iff.mp member
      exact known

theorem yields_admitTransfer {settings : Ledger.Settings} {transfer : Chain.MarkerTransfer}
    (known : transfer.txHash ∈ hashes) : (Ledger.admitTransfer settings resolve transfer).Yields
      fun found => ∀ made ∈ found, made.txHash ∈ hashes := by
  unfold Ledger.admitTransfer
  split
  · exact fun made member => absurd member (Option.not_mem_none made)
  · refine (yields_any _).bind fun fromBank _ => (yields_any _).bind fun toBank _ => ?_
    split
    · exact fun made member => absurd member (Option.not_mem_none made)
    · rintro made ⟨⟩
      exact known

theorem yields_admitBlock (settings : Ledger.Settings) (contract : String)
    (batch : Chain.Batch) : (Ledger.admitBlock settings resolve (batch.mints contract)
      (batch.transfers contract) batch.markerTransfers).Yields fun admitted =>
        ∀ made ∈ admitted, made.txHash ∈ batch.events.map (·.txHash) := by
  let hashes := batch.events.map (·.txHash)
  have minted : (Ledger.admitAll (Ledger.admitMint resolve) (batch.mints contract)).Yields
      fun admitted => ∀ made ∈ admitted, made.txHash ∈ hashes := by
    refine yields_admitAll fun mint member => ?_
    obtain ⟨event, there, rfl⟩ := List.mem_map.mp member
    exact yields_admitMint (List.mem_map_of_mem (List.mem_filter.mp there).1)
  have burned : (Ledger.admitAll (Ledger.admitBurn settings resolve)
      (batch.transfers contract)).Yields fun admitted =>
        ∀ made ∈ admitted, made.txHash ∈ hashes := by
    refine yields_admitAll fun transfer member => ?_
    obtain ⟨event, there, rfl⟩ := List.mem_map.mp member
    exact yields_admitBurn (List.mem_map_of_mem (List.mem_filter.mp there).1)
  have moved : (Ledger.admitAll (Ledger.admitTransfer settings resolve)
      batch.markerTransfers).Yields fun admitted =>
        ∀ made ∈ admitted, made.txHash ∈ hashes := by
    refine yields_admitAll fun transfer member => ?_
    obtain ⟨event, there, rfl⟩ := List.mem_map.mp member
    exact yields_admitTransfer (List.mem_map_of_mem (List.mem_filter.mp there).1)
  refine minted.bind fun first mints => burned.bind fun second burns => ?_
  refine moved.bind fun third transfers made member => ?_
  rcases List.mem_append.mp member with earlier | last
  · rcases List.mem_append.mp earlier with mint | burn
    · exact mints made mint
    · exact burns made burn
  · exact transfers made last

end Admitted

def Enters : Request → Prop
  | .storage (.registration _) | .storage (.append ..) | .block _ | .times => True
  | _ => False

theorem asks_recordBlock (settings : Settings) (height : Nat) (batch : Chain.Batch) :
    (recordBlock settings height batch).Asks Enters := by
  have admission : (Ledger.admitBlock settings.ledger Directory.resolve
      (batch.mints settings.contract) (batch.transfers settings.contract)
      batch.markerTransfers).Asks Enters := (consults_admitBlock _ _ _ _).asks fun _ => trivial
  apply Asks.bind (admission.mapFailure _)
  intro admitted
  split
  · trivial
  · refine ⟨trivial, fun reply => ?_⟩
    cases reply with
    | error failure => trivial
    | ok header =>
        refine ⟨trivial, fun now => ⟨trivial, fun reply => ?_⟩⟩
        rcases reply with fault | _ | count <;> trivial

end Consumer

end Settlement
