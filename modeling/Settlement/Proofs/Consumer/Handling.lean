import Settlement.Proofs.Activity.Safety
import Settlement.Proofs.Store.Effects

/-!
What the handling of one batch does to the records, whatever answers it. Every observed
event takes its step of the reference at once or not at all, and so does the ledger; a
failure has a disturbance behind it or a height that cannot be stored.
-/

namespace Settlement

/-- A stream delivers the batches from a height on in order, and may end with a failure. -/
def History.Delivers (history : History) (height : Nat)
    (items : List (Except Chain.Failure Chain.Batch)) : Prop :=
  ∃ count ending,
    items = (List.range' height count).map (fun h => .ok (history.batch h)) ++ ending ∧
    (ending = [] ∨ ∃ failure, ending = [.error failure])

/-- The history answers, or a failure does. A storage call that fails may still have taken
effect. -/
def History.answers (history : History) : Answering Store
  | .storage statement, before, reply, after =>
      (statement.IsFresh before ∧ statement.run before = (reply, after)) ∨
      ((∃ fault, reply = .error fault) ∧
        (after = before ∨ statement.IsFresh before ∧ after = (statement.run before).2))
  | .transaction txHash, before, reply, after =>
      after = before ∧
        (reply = .ok (history.transaction txHash) ∨ ∃ failure, reply = .error failure)
  | .block height, before, reply, after =>
      after = before ∧ (reply = .ok (history.block height) ∨ ∃ failure, reply = .error failure)
  | .openStream _ height, before, items, after =>
      after = before ∧ history.Delivers height items
  | .stamp, before, _, after | .times, before, _, after | .clock, before, _, after
  | .notifyBank _, before, _, after =>
      after = before

/-- How answers behave towards an intake: they come from its history, they keep the tables
sound, and only a disturbance makes them fail. -/
structure Conduct (intake : Intake) (answers : Answering Store) (sound : Store → Prop)
    (last : Nat) (cut disturbed : Prop) : Prop where
  within : ∀ {request before reply after}, answers request before reply after →
    intake.history.answers request before reply after
  keeps : ∀ {request before reply after}, answers request before reply after →
    sound before → sound after
  storage : ∀ {statement before fault after},
    answers (.storage statement) before (.error fault) after → sound before → disturbed
  transaction : ∀ {txHash before failure after},
    answers (.transaction txHash) before (.error failure) after → disturbed
  block : ∀ {height before failure after},
    answers (.block height) before (.error failure) after → disturbed
  stream : ∀ {types height before items after},
    answers (.openStream types height) before items after →
    cut ∧ disturbed ∨ items = (List.range' height (last + 1 - height)).map fun h =>
      .ok (intake.history.batch h)

section Answers

variable {intake : Intake} {answers : Answering Store} {sound : Store → Prop}
  {last : Nat} {cut disturbed : Prop}
  (conduct : Conduct intake answers sound last cut disturbed)

include conduct

theorem Conduct.read {statement : Store.Statement} {before after : Store}
    {reply : Except Store.Fault statement.Reply} (read : statement.isRead = true)
    (kept : sound before) (answered : answers (.storage statement) before reply after) :
    after = before ∧
      match reply with
      | .ok value => (statement.run before).1 = .ok value
      | .error _ => disturbed := by
  have unmoved : after = before := by
    rcases conduct.within answered with ⟨_, ran⟩ | ⟨_, same | ⟨_, ran⟩⟩
    · rw [← Store.Statement.run_read read before, ran]
    · exact same
    · rw [ran, Store.Statement.run_read read before]
  refine ⟨unmoved, ?_⟩
  cases reply with
  | ok value =>
      rcases conduct.within answered with ⟨_, ran⟩ | ⟨⟨_, failed⟩, _⟩
      · rw [ran]
      · cases failed
  | error fault => exact conduct.storage answered kept

theorem Conduct.write {statement : Store.Statement} {before after : Store}
    {reply : Except Store.Fault statement.Reply} (kept : sound before)
    (answered : answers (.storage statement) before reply after) :
    match reply with
    | .ok value => statement.IsFresh before ∧ statement.run before = (.ok value, after)
    | .error _ => disturbed ∧
        (after = before ∨ statement.IsFresh before ∧ after = (statement.run before).2) := by
  cases reply with
  | ok value =>
      rcases conduct.within answered with ran | ⟨⟨_, failed⟩, _⟩
      · exact ran
      · cases failed
  | error fault =>
      refine ⟨conduct.storage answered kept, ?_⟩
      rcases conduct.within answered with ⟨fresh, ran⟩ | ⟨_, effect⟩
      · exact Or.inr ⟨fresh, by rw [ran]⟩
      · exact effect

end Answers

namespace Consumer

theorem verdict_terminal (answer : Except Chain.Failure (Option Chain.TxResponse)) :
    (verdict answer).1.isTerminal = true := by
  rcases answer with failure | _ | tx
  · rfl
  · rfl
  · unfold verdict
    split
    · split <;> rfl
    all_goals rfl

def Stepped (sound : Store → Prop) (disturbed : Prop) (step : Records → Option Records)
    {ε α : Type} (start : Store) (result : Except ε α) (after : Store) : Prop :=
  Store.Framed start after ∧ sound after ∧
    match result with
    | .ok _ => step start.records = some after.records
    | .error _ => (after.records = start.records ∨ step start.records = some after.records) ∧
        (disturbed ∨ step start.records = none)

def AllowsStep (allowed : Store → Store → Prop) (sound : Store → Prop)
    (step : Records → Option Records) (start : Store) : Prop :=
  ∀ before after, Store.Framed start before → Store.Framed start after → sound after →
    before.records = start.records →
    (after.records = start.records ∨ step start.records = some after.records) →
    allowed before after

theorem AllowsStep.stay {allowed : Store → Store → Prop} {sound : Store → Prop}
    {step : Records → Option Records} {start : Store}
    (allows : AllowsStep allowed sound step start) (kept : sound start) : allowed start start :=
  allows start start (.refl start) (.refl start) kept rfl (Or.inl rfl)

open Activity

theorem keeps_forEach {σ ι : Type} {answers : Answering σ} {allowed : σ → σ → Prop}
    {handle : ι → Activity Failure Unit} {items : List ι} {done : List ι → σ → Prop}
    {fails : Failure → σ → Prop} {start : σ}
    (one : ∀ earlier item later, items = earlier ++ item :: later → ∀ state, done earlier state →
      (handle item).Keeps answers allowed (fun result after =>
        match result with
        | .ok _ => done (earlier ++ [item]) after
        | .error failure => fails failure after) state)
    (begun : done [] start) :
    (forEach handle items).Keeps answers allowed (fun result after =>
      match result with
      | .ok _ => done items after
      | .error failure => fails failure after) start := by
  have rest : ∀ later earlier, items = earlier ++ later → ∀ state, done earlier state →
      (forEach handle later).Keeps answers allowed (fun result after =>
        match result with
        | .ok _ => done items after
        | .error failure => fails failure after) state := by
    intro later
    induction later with
    | nil =>
        intro earlier all state reached
        rw [List.append_nil] at all
        rw [all]
        exact reached
    | cons item later ih =>
        intro earlier all state reached
        refine (one earlier item later all state reached).bind ?_ fun _ _ failed => failed
        exact fun _ after further => ih (earlier ++ [item]) (by simp [all]) after further
  exact rest items [] rfl start begun

section Handling

variable {intake : Intake} {answers : Answering Store} {sound : Store → Prop}
  {last : Nat} {cut disturbed : Prop}
  (conduct : Conduct intake answers sound last cut disturbed) {allowed : Store → Store → Prop}

include conduct

theorem keeps_isConfirmed (txHash : String) (start : Store) (stay : allowed start start) :
    (isConfirmed txHash).Keeps answers allowed (fun result after => after = start ∧
      match result with
      | .ok confirmed => confirmed = intake.history.confirms txHash
      | .error _ => disturbed) start := by
  intro reply after answered
  obtain ⟨rfl, told⟩ := conduct.within answered
  refine ⟨stay, ?_⟩
  rcases told with rfl | ⟨failure, rfl⟩
  · unfold History.confirms
    cases intake.history.transaction txHash <;> exact ⟨rfl, rfl⟩
  · exact ⟨rfl, conduct.transaction answered⟩

omit conduct in
theorem Stepped.map {ε δ α β : Type} {step : Records → Option Records} {start after : Store}
    {result : Except ε α} {other : Except δ β}
    (same : result.toOption.isSome = other.toOption.isSome)
    (stepped : Stepped sound disturbed step start result after) :
    Stepped sound disturbed step start other after := by
  cases result <;> cases other <;> first | exact stepped | cases same

theorem keeps_write {ε : Type} {statement : Store.Statement} {view : Store.Fault → ε}
    {step : Records → Option Records} {start : Store} (kept : sound start)
    (effect : statement.IsFresh start → Store.Framed start (statement.run start).2 ∧
      step start.records = some (statement.run start).2.records)
    (allows : AllowsStep allowed sound step start) :
    (Activity.storage view statement).Keeps answers allowed
      (Stepped sound disturbed step start) start := by
  rw [keeps_storage]
  intro reply after answered
  have keptAfter := conduct.keeps answered kept
  have written := conduct.write kept answered
  cases reply with
  | ok value =>
      obtain ⟨fresh, ran⟩ := written
      obtain ⟨framed, taken⟩ := effect fresh
      rw [ran] at framed taken
      exact ⟨allows start after (.refl start) framed keptAfter rfl (Or.inr taken),
        framed, keptAfter, taken⟩
  | error fault =>
      -- Only the reply may be lost, so the step was taken as a whole or not at all.
      obtain ⟨disturbed, rfl | ⟨fresh, rfl⟩⟩ := written
      · exact ⟨allows.stay kept,
          .refl _, kept, Or.inl rfl, Or.inl disturbed⟩
      · obtain ⟨framed, taken⟩ := effect fresh
        exact ⟨allows start _ (.refl start) framed keptAfter rfl (Or.inr taken),
          framed, keptAfter, Or.inr taken, Or.inl disturbed⟩

theorem keeps_admitMigration (migration : Chain.Migration) (start : Store) (kept : sound start)
    (untracked : migration.txHash ∉ intake.tracked)
    (absent : migration.txHash ∉ start.records.migrations.map Prod.fst)
    (allows : AllowsStep allowed sound (intake.accept (.migration migration)) start) :
    (admitMigration migration).Keeps answers allowed
      (Stepped sound disturbed (intake.accept (.migration migration)) start) start := by
  have stay := allows.stay kept
  refine (keeps_isConfirmed conduct migration.txHash start stay).bind ?_ ?_
  · rintro confirmed start ⟨rfl, told⟩
    cases confirmed with
    -- What the chain does not confirm is passed over, by the reference as well.
    | false => exact ⟨.refl _, kept, by simp [Intake.accept, Intake.acceptMigration, ← told]⟩
    | true =>
        intro stamp start answered
        obtain rfl := conduct.within answered
        refine ⟨stay, (keeps_discard _ _).mpr ?_⟩
        refine (keeps_write conduct kept ?_ allows).mono
          fun result _ stepped => stepped.map (by cases result <;> rfl)
        intro fresh
        obtain ⟨framed, added⟩ := Store.run_addMigration _ _ fresh
        refine ⟨framed, ?_⟩
        rw [added, if_neg absent]
        simp [Intake.accept, Intake.acceptMigration, ← told, untracked, absent]
  · rintro failure _ ⟨rfl, told⟩
    exact ⟨.refl _, kept, Or.inl rfl, Or.inl told⟩

theorem keeps_admitTransfer (transfer : Chain.Transfer) (start : Store) (kept : sound start)
    (untracked : transfer.txHash ∉ intake.tracked)
    (bound : isBankBound intake.settings transfer = true)
    (absent : transfer.txHash ∉ start.records.deposits.map (·.txHash))
    (allows : AllowsStep allowed sound (intake.accept (.transfer transfer)) start) :
    (admitTransfer transfer).Keeps answers allowed
      (Stepped sound disturbed (intake.accept (.transfer transfer)) start) start := by
  have stay := allows.stay kept
  refine (keeps_isConfirmed conduct transfer.txHash start stay).bind ?_ ?_
  · rintro confirmed start ⟨rfl, told⟩
    cases confirmed with
    | false => exact ⟨.refl _, kept, by simp [Intake.accept, Intake.acceptTransfer, ← told]⟩
    | true =>
        intro stamp start answered
        obtain rfl := conduct.within answered
        refine ⟨stay, ?_⟩
        have accepted : intake.accept (.transfer transfer) start.records =
            (Height.stored? transfer.height).map fun height => { start.records with
              deposits := start.records.deposits ++ [⟨transfer.txHash, transfer.sender,
                transfer.recipient, transfer.denom, transfer.amount, .number height⟩] } :=
          if_neg (by simp [untracked, bound, absent, ← told])
        cases fits : Height.stored? transfer.height with
        -- A height that cannot be stored stops the reference too.
        | none => exact ⟨.refl _, kept, Or.inl rfl, Or.inr (by rw [accepted, fits]; rfl)⟩
        | some height =>
            refine (keeps_discard _ _).mpr ?_
            refine (keeps_write conduct kept ?_ allows).mono
              fun result _ stepped => stepped.map (by cases result <;> rfl)
            intro fresh
            obtain ⟨framed, added⟩ := Store.run_addDeposit _ _ fresh
            refine ⟨framed, ?_⟩
            rw [added, if_neg absent, accepted, fits]
            rfl
  · rintro failure _ ⟨rfl, told⟩
    exact ⟨.refl _, kept, Or.inl rfl, Or.inl told⟩

theorem keeps_reconcile (tracked : Store.Tracked) (start : Store) (kept : sound start)
    {step : Records → Option Records} (idle : step start.records = some start.records)
    (allows : AllowsStep allowed sound step start) :
    (reconcile tracked).Keeps answers allowed (Stepped sound disturbed step start) start := by
  have stay := allows.stay kept
  unfold reconcile
  split
  · exact ⟨.refl start, kept, idle⟩
  · intro reply start answered
    obtain ⟨rfl, _⟩ := conduct.within answered
    refine ⟨stay, ?_⟩
    intro stamp start answered
    obtain rfl := conduct.within answered
    refine ⟨stay, keeps_write conduct kept (fun _ => ?_) allows⟩
    obtain ⟨framed, unmoved⟩ := Store.run_settle start tracked.txHash (verdict reply).1
      (verdict reply).2 stamp.time
    exact ⟨framed, idle.trans (congrArg some unmoved.symm)⟩

/-- The tables hold the registrations and the tracked hashes that an intake goes by. -/
structure Known (intake : Intake) (store : Store) : Prop where
  registrations : store.registrations = intake.registrations
  tracked : store.tracked.map (·.txHash) = intake.tracked

omit conduct in
theorem Known.framed {before after : Store} (known : Known intake before)
    (framed : Store.Framed before after) : Known intake after :=
  ⟨framed.registrations.trans known.registrations, framed.tracked.trans known.tracked⟩

theorem keeps_admitObserved (observed : Observed) (start : Store) (kept : sound start)
    (untracked : observed.txHash ∉ intake.tracked)
    (allows : AllowsStep allowed sound (intake.accept observed) start) :
    (admitObserved intake.settings observed).Keeps answers allowed
      (Stepped sound disturbed (intake.accept observed) start) start := by
  have stay := allows.stay kept
  cases observed with
  | migration migration =>
      intro reply start answered
      obtain ⟨rfl, told⟩ := conduct.read rfl kept answered
      refine ⟨stay, ?_⟩
      cases reply with
      | error fault => exact ⟨.refl _, kept, Or.inl rfl, Or.inl told⟩
      | ok found =>
          cases found with
          | none =>
              refine keeps_admitMigration conduct migration start kept untracked ?_ allows
              have absent := Store.readOptional_none told
              simpa [Store.records, Store.MigrationRow.facts] using absent
          | some record =>
              refine ⟨.refl _, kept, ?_⟩
              -- The row is there already, so the step leaves the records alone.
              have present : migration.txHash ∈ start.records.migrations.map Prod.fst := by
                rw [Store.records, List.map_map]
                exact Store.readOptional_mem told
              simp only [Intake.accept, Intake.acceptMigration, present, true_or, or_true,
                if_true]
  | transfer transfer =>
      simp only [admitObserved]
      cases bound : isBankBound intake.settings transfer with
      | false => exact ⟨.refl _, kept, by simp [Intake.accept, Intake.acceptTransfer, bound]⟩
      | true =>
          intro reply start answered
          obtain ⟨rfl, told⟩ := conduct.read rfl kept answered
          refine ⟨stay, ?_⟩
          cases reply with
          | error fault => exact ⟨.refl _, kept, Or.inl rfl, Or.inl told⟩
          | ok found =>
              cases found with
              | none =>
                  refine keeps_admitTransfer conduct transfer start kept untracked bound ?_ allows
                  have absent := Store.readOptional_none told
                  simpa [Store.records, Store.DepositRow.facts] using absent
              | some record =>
                  refine ⟨.refl _, kept, ?_⟩
                  have present : transfer.txHash ∈ start.records.deposits.map (·.txHash) := by
                    rw [Store.records, List.map_map]
                    exact Store.readOptional_mem told
                  simp only [Intake.accept, Intake.acceptTransfer, present, true_or, or_true,
                    if_true]
  | other txHash => exact ⟨.refl _, kept, rfl⟩

omit conduct in
theorem accept_tracked {observed : Observed} (member : observed.txHash ∈ intake.tracked)
    (records : Records) : intake.accept observed records = some records := by
  cases observed with
  | migration migration => exact congrArg some (if_pos (Or.inl member))
  | transfer transfer => exact if_pos (Or.inl member)
  | other txHash => rfl

theorem keeps_handleObserved (observed : Observed) (start : Store) (kept : sound start)
    (known : Known intake start)
    (allows : AllowsStep allowed sound (intake.accept observed) start) :
    (handleObserved intake.settings observed).Keeps answers allowed
      (Stepped sound disturbed (intake.accept observed) start) start := by
  have stay := allows.stay kept
  intro reply start answered
  obtain ⟨rfl, told⟩ := conduct.read rfl kept answered
  refine ⟨stay, ?_⟩
  cases reply with
  | error fault => exact ⟨.refl _, kept, Or.inl rfl, Or.inl told⟩
  | ok found =>
      cases found with
      | none =>
          refine keeps_admitObserved conduct observed start kept ?_ allows
          have absent := Store.readOptional_none told
          rw [← known.tracked]
          simpa using absent
      | some tracked =>
          refine keeps_reconcile conduct tracked start kept (accept_tracked ?_ _) allows
          rw [← known.tracked]
          exact Store.readOptional_mem told

def Told (disturbed : Prop) {ε α : Type} (value : α) (start : Store) (result : Except ε α)
    (after : Store) : Prop :=
  after = start ∧
    match result with
    | .ok told => told = value
    | .error _ => disturbed

omit conduct in
theorem Told.bind {ε α β : Type} {value : α} {start : Store} {first : Activity ε α}
    {next : α → Activity ε β} {post : Except ε β → Store → Prop}
    (told : first.Keeps answers allowed (Told disturbed value start) start)
    (succeeds : (next value).Keeps answers allowed post start)
    (fails : ∀ failure, disturbed → post (.error failure) start) :
    (first >>= next).Keeps answers allowed post start := by
  refine told.bind ?_ ?_
  · rintro _ _ ⟨rfl, rfl⟩
    exact succeeds
  · rintro failure _ ⟨rfl, cause⟩
    exact fails failure cause

theorem keeps_resolve (address : String) (start : Store) (kept : sound start)
    (known : Known intake start) (stay : allowed start start) :
    (Directory.resolve address).Keeps answers allowed
      (Told disturbed (Directory.account intake.registrations address) start) start := by
  unfold Directory.resolve Directory.account
  split
  · exact ⟨rfl, rfl⟩
  · intro reply start answered
    obtain ⟨rfl, told⟩ := conduct.read rfl kept answered
    refine ⟨stay, ?_⟩
    cases reply with
    | error fault => exact ⟨rfl, told⟩
    | ok registration =>
        have read : Store.latestRegistration intake.registrations address = .ok registration := by
          rw [← known.registrations]
          exact told
        rw [read]
        cases registration <;> exact ⟨rfl, rfl⟩

section Admission

variable {resolve : Ledger.Resolve} {account : String → Option Uuid} {start : Store}

/-- A directory answers for an account function and leaves the tables alone. -/
def Resolves (answers : Answering Store) (allowed : Store → Store → Prop) (disturbed : Prop)
    (resolve : Ledger.Resolve) (account : String → Option Uuid) (start : Store) : Prop :=
  ∀ address, (resolve address).Keeps answers allowed
    (Told disturbed (account address) start) start

variable (resolves : Resolves answers allowed disturbed resolve account start)

include resolves
omit conduct

theorem Resolves.admitMint (mint : Chain.Mint) :
    (Ledger.admitMint resolve mint).Keeps answers allowed
      (Told disturbed (Ledger.admittedMint account mint) start) start := by
  unfold Ledger.admitMint Ledger.admittedMint
  split
  · exact ⟨rfl, rfl⟩
  · exact Told.bind (resolves mint.withdrawAddress) ⟨rfl, rfl⟩ fun _ cause => ⟨rfl, cause⟩

theorem Resolves.admitBurn (settings : Ledger.Settings) (transfer : Chain.Transfer) :
    (Ledger.admitBurn settings resolve transfer).Keeps answers allowed
      (Told disturbed (Ledger.admittedBurn settings account transfer) start) start := by
  unfold Ledger.admitBurn Ledger.admittedBurn
  split
  · exact ⟨rfl, rfl⟩
  · split
    · exact ⟨rfl, rfl⟩
    · exact Told.bind (resolves transfer.sender) ⟨rfl, rfl⟩ fun _ cause => ⟨rfl, cause⟩

theorem Resolves.admitTransfer (settings : Ledger.Settings) (transfer : Chain.MarkerTransfer) :
    (Ledger.admitTransfer settings resolve transfer).Keeps answers allowed
      (Told disturbed (Ledger.admittedTransfer settings account transfer) start) start := by
  unfold Ledger.admitTransfer Ledger.admittedTransfer
  split
  · exact ⟨rfl, rfl⟩
  · refine Told.bind (resolves transfer.fromAddress) ?_ fun _ cause => ⟨rfl, cause⟩
    refine Told.bind (resolves transfer.toAddress) ?_ fun _ cause => ⟨rfl, cause⟩
    split <;> exact ⟨rfl, rfl⟩

omit resolves in
theorem keeps_admitAll {α : Type} {admission : α → Activity Store.Fault (Option Ledger.Admitted)}
    {admitted : α → Option Ledger.Admitted}
    (told : ∀ item, (admission item).Keeps answers allowed
      (Told disturbed (admitted item) start) start) (items : List α) :
    (Ledger.admitAll admission items).Keeps answers allowed
      (Told disturbed (items.filterMap admitted) start) start := by
  induction items with
  | nil => exact ⟨rfl, rfl⟩
  | cons item rest ih =>
      refine Told.bind (told item) ?_ fun _ cause => ⟨rfl, cause⟩
      refine Told.bind ih ⟨rfl, ?_⟩ fun _ cause => ⟨rfl, cause⟩
      cases admission : admitted item <;> simp [admission]

theorem Resolves.admitBlock (settings : Ledger.Settings) (mints : List Chain.Mint)
    (burns : List Chain.Transfer) (transfers : List Chain.MarkerTransfer) :
    (Ledger.admitBlock settings resolve mints burns transfers).Keeps answers allowed
      (Told disturbed (Ledger.admittedBlock settings account mints burns transfers) start)
      start := by
  refine Told.bind (keeps_admitAll resolves.admitMint mints) ?_ fun _ cause => ⟨rfl, cause⟩
  refine Told.bind (keeps_admitAll (resolves.admitBurn settings) burns) ?_
    fun _ cause => ⟨rfl, cause⟩
  exact Told.bind (keeps_admitAll (resolves.admitTransfer settings) transfers)
    ⟨rfl, rfl⟩ fun _ cause => ⟨rfl, cause⟩

end Admission

theorem resolves_directory (start : Store) (kept : sound start) (known : Known intake start)
    (stay : allowed start start) :
    Resolves answers allowed disturbed Directory.resolve
      (Directory.account intake.registrations) start :=
  fun address => keeps_resolve conduct address start kept known stay

omit conduct in
theorem keeps_fetchBlock {history : History} {height : Nat} {start : Store}
    (within : ∀ {reply before after}, answers (.block height) before reply after →
      history.answers (.block height) before reply after)
    (fails : ∀ {failure before after}, answers (.block height) before (.error failure) after →
      disturbed) (stay : allowed start start) :
    (Ledger.fetchBlock height).Keeps answers allowed
      (Told disturbed (history.block height) start) start := by
  intro reply start answered
  obtain ⟨rfl, told⟩ := within answered
  refine ⟨stay, ?_⟩
  rcases told with rfl | ⟨failure, rfl⟩
  · exact ⟨rfl, rfl⟩
  · exact ⟨rfl, fails answered⟩

theorem keeps_append (batch : Chain.Batch) (now : Nat → Timestamp) (start : Store)
    (kept : sound start) (allows : AllowsStep allowed sound (intake.append batch) start)
    {next : Option Nat → Activity Failure Nat} (counts : ∀ count, next (some count) = pure count)
    (refuses : next none = fail (.ofCause .heightRange)) :
    (Activity.storage Ledger.ofStorage (.append (intake.entries batch) now) >>= next).Keeps
      answers allowed (Stepped sound disturbed (intake.append batch) start) start := by
  rw [keeps_bind, keeps_storage]
  have ran := Store.run_append start (intake.entries batch) now
  cases appended : Store.appendFacts (intake.entries batch) start.records.movements with
  | none =>
      rw [appended] at ran
      -- One entry that cannot be stored undoes the whole append, here and in the reference.
      have stuck : intake.append batch start.records = none := by simp [Intake.append, appended]
      have stay := allows.stay kept
      intro reply after answered
      have written := conduct.write kept answered
      rw [ran] at written
      cases reply with
      | ok count =>
          obtain ⟨_, same⟩ := written
          cases same
          refine ⟨stay, ?_⟩
          change (next none).Keeps answers allowed _ _
          rw [refuses]
          exact ⟨.refl _, kept, Or.inl rfl, Or.inr stuck⟩
      | error fault =>
          have unmoved : after = start := written.2.elim id And.right
          subst unmoved
          exact ⟨stay, .refl _, kept, Or.inl rfl, Or.inr stuck⟩
  | some movements =>
      rw [appended] at ran
      obtain ⟨count, after, ran, framed, changed⟩ := ran
      have taken : intake.append batch start.records = some after.records := by
        simp [Intake.append, appended, changed]
      intro reply later answered
      have keptLater := conduct.keeps answered kept
      have written := conduct.write kept answered
      rw [ran] at written
      cases reply with
      | ok count =>
          obtain ⟨_, same⟩ := written
          cases same
          refine ⟨allows start after (.refl start) framed keptLater rfl (Or.inr taken), ?_⟩
          change (next (some count)).Keeps answers allowed _ _
          rw [counts]
          exact ⟨framed, keptLater, taken⟩
      | error fault =>
          obtain ⟨cause, rfl | ⟨_, rfl⟩⟩ := written
          · exact ⟨allows.stay kept,
              .refl _, kept, Or.inl rfl, Or.inl cause⟩
          · exact ⟨allows start _ (.refl start) framed keptLater rfl (Or.inr taken),
              framed, keptLater, Or.inr taken, Or.inl cause⟩

theorem keeps_recordBlock (batch : Chain.Batch) (start : Store) (kept : sound start)
    (known : Known intake start)
    (allows : AllowsStep allowed sound (intake.append batch) start) :
    (recordBlock intake.settings batch.height batch).Keeps answers allowed
      (Stepped sound disturbed (intake.append batch) start) start := by
  have stay := allows.stay kept
  have fails : ∀ failure : Failure, disturbed →
      Stepped sound disturbed (intake.append batch) start
        (.error failure : Except Failure Nat) start :=
    fun _ cause => ⟨.refl start, kept, Or.inl rfl, Or.inl cause⟩
  have admits : (mapFailure Ledger.ofStorage
      (Ledger.admitBlock intake.settings.ledger Directory.resolve
        (batch.mints intake.settings.contract) (batch.transfers intake.settings.contract)
        batch.markerTransfers)).Keeps answers allowed
      (Told disturbed (intake.admitted batch) start) start := by
    rw [keeps_mapFailure]
    refine ((resolves_directory conduct start kept known stay).admitBlock _ _ _ _).mono ?_
    rintro (failure | admitted) _ told <;> exact told
  refine Told.bind admits ?_ fails
  split
  · rename_i empty
    -- Nothing was admitted, so there is no block to ask for and nothing to append.
    have none : intake.entries batch = [] := by
      rw [Intake.entries, List.isEmpty_iff.mp empty]
      rfl
    exact ⟨.refl start, kept, by simp [Intake.append, none, Store.appendFacts]⟩
  · refine Told.bind (keeps_fetchBlock conduct.within conduct.block stay) ?_ fails
    intro now start answered
    obtain rfl := conduct.within answered
    exact ⟨stay, keeps_append conduct batch now start kept allows (fun _ => rfl) rfl⟩

end Handling
end Consumer
end Settlement
