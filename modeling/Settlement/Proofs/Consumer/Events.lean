import Settlement.Proofs.Activity.Together
import Settlement.Proofs.Consumer.Handling
import Settlement.Proofs.Consumer.Questions
import Settlement.Proofs.Store.Lasting

/-!
What the handling of one event does among others that use the same tables. Between two
questions anything may happen that leaves what lasts, so whatever was looked up is known of an
earlier state only. `Effect` says what may be asked and what comes of it, `Handled` what holds
for good after it has been done.
-/

namespace Settlement

/-- Everybody is answered from the same tables and remembers nothing of it. -/
def World.shared (γ : Type) (answers : Answering Store) (elsewhere : Store → Store → Prop) :
    World Store γ where
  answers _ := answers
  learn memory _ _ := memory
  elsewhere

theorem Activity.Abides.remembers {γ ε α : Type} {answers : Answering Store}
    {elsewhere : Store → Store → Prop} {pact : Pact (World.shared γ answers elsewhere)}
    {post : Except ε α → Store → Prop} {activity : Activity ε α} {memory : γ} {state : Store}
    (abides : activity.Abides pact (fun _ => post) memory state) :
    activity.Abides pact (fun told result store => told = memory ∧ post result store)
      memory state := by
  induction activity generalizing state with
  | done result => exact fun between passed => ⟨rfl, abides between passed⟩
  | ask request next ih =>
      intro between passed reply after answered
      obtain ⟨step, rest⟩ := abides between passed reply after answered
      exact ⟨step, ih reply rest⟩

theorem Activity.Abides.keeps {γ ε α : Type} {answers : Answering Store}
    {elsewhere : Store → Store → Prop} {pact : Pact (World.shared γ answers elsewhere)}
    {post : Except ε α → Store → Prop} {activity : Activity ε α} {memory : γ} {state : Store}
    (abides : activity.Abides pact (fun _ => post) memory state) :
    activity.Keeps answers (fun _ _ => True) (fun result store =>
      pact.others state store ∧ post result store) state := by
  induction activity generalizing state with
  | done result => exact ⟨pact.refl state, abides state (pact.refl state)⟩
  | ask request next ih =>
      intro reply after answered
      obtain ⟨step, rest⟩ := abides state (pact.refl state) reply after answered
      refine ⟨trivial, (ih reply rest).mono fun result store ended => ?_⟩
      exact ⟨pact.trans (pact.own_others step) ended.1, ended.2⟩

/-- Answers that come from a history, and fail for no other reason than the tables unless there
is a disturbance. -/
structure Manners (history : History) (answers : Answering Store) (disturbed : Prop) : Prop where
  within : ∀ {request before reply after}, answers request before reply after →
    history.answers request before reply after
  storage : ∀ {statement before fault after},
    answers (.storage statement) before (.error fault) after →
    disturbed ∨ (statement.run before).1 = .error fault
  transaction : ∀ {txHash before failure after},
    answers (.transaction txHash) before (.error failure) after → disturbed
  block : ∀ {height before failure after},
    answers (.block height) before (.error failure) after → disturbed

def Store.Statement.Ran (statement : Store.Statement) (before after : Store) : Prop :=
  after = before ∨ statement.IsFresh before ∧ after = (statement.run before).2

theorem Store.Statement.Ran.lasts {statement : Store.Statement} {before after : Store}
    (ran : statement.Ran before after) (identified : Store.Identified before.tracked) :
    Store.Lasts before after := by
  rcases ran with rfl | ⟨_, rfl⟩
  · exact .refl _
  · exact statement.lasts identified

section Answers

variable {history : History} {answers : Answering Store} {disturbed : Prop}
  (manners : Manners history answers disturbed) {statement : Store.Statement}
  {before after : Store} {reply : Except Store.Fault statement.Reply}

include manners

theorem Manners.read (read : statement.isRead = true)
    (answered : answers (.storage statement) before reply after) :
    after = before ∧
      match reply with
      | .ok value => (statement.run before).1 = .ok value
      | .error fault => disturbed ∨ (statement.run before).1 = .error fault := by
  have unmoved : after = before := by
    rcases manners.within answered with ⟨_, ran⟩ | ⟨_, same | ⟨_, ran⟩⟩
    · rw [← Store.Statement.run_read read before, ran]
    · exact same
    · rw [ran, Store.Statement.run_read read before]
  refine ⟨unmoved, ?_⟩
  cases reply with
  | ok value =>
      rcases manners.within answered with ⟨_, ran⟩ | ⟨⟨_, failed⟩, _⟩
      · rw [ran]
      · cases failed
  | error fault => exact manners.storage answered

theorem Manners.fails {fault : Store.Fault}
    (answered : answers (.storage statement) before (.error fault) after)
    (works : Store.Succeeds (statement.run before).1) : disturbed := by
  obtain ⟨value, done⟩ := works
  exact (manners.storage answered).resolve_right fun failed => by cases done.symm.trans failed

theorem Manners.ran (answered : answers (.storage statement) before reply after) :
    statement.Ran before after := by
  rcases manners.within answered with ⟨fresh, ran⟩ | ⟨_, effect⟩
  · exact .inr ⟨fresh, by rw [ran]⟩
  · exact effect

theorem Manners.wrote {value : statement.Reply}
    (answered : answers (.storage statement) before (.ok value) after) :
    statement.IsFresh before ∧ statement.run before = (.ok value, after) := by
  rcases manners.within answered with ran | ⟨⟨_, failed⟩, _⟩
  · exact ran
  · cases failed

end Answers

namespace Consumer

open Store (Lasts Identified findTracked findMigration findDeposit)

section Handled

variable (settings : Settings) (history : History)

/-- The event's transaction is tracked and waits for its verdict. -/
def Unsettled (observed : Observed) (store : Store) : Prop :=
  ∃ record, findTracked store.tracked observed.txHash = .ok (some record) ∧
    record.status.isTerminal = false

/-- The event's transaction is not tracked, and there is no row for the event although it is of
a kind that gets one. -/
def Missing (observed : Observed) (store : Store) : Prop :=
  findTracked store.tracked observed.txHash = .ok none ∧
    match observed with
    | .migration migration => findMigration store.migrations migration.txHash = .ok none
    | .transfer transfer => isBankBound settings transfer = true ∧
        findDeposit store.deposits transfer.txHash = .ok none
    | .other _ => False

def Admitted {value : Type} (txHash : String) (looked : Except Store.Fault (Option value)) :
    Prop :=
  ∃ found, looked = .ok found ∧ (history.confirms txHash = true → found.isSome = true)

/-- Nothing is left to be done about the event. -/
def Handled (observed : Observed) (store : Store) : Prop :=
  (∃ record, findTracked store.tracked observed.txHash = .ok (some record) ∧
    record.status.isTerminal = true) ∨
  findTracked store.tracked observed.txHash = .ok none ∧
    match observed with
    | .migration migration =>
        Admitted history migration.txHash (findMigration store.migrations migration.txHash)
    | .transfer transfer => isBankBound settings transfer = true →
        Admitted history transfer.txHash (findDeposit store.deposits transfer.txHash)
    | .other _ => True

/-- What the tables have against the handling of an event. -/
def Blocked (observed : Observed) (store : Store) : Prop :=
  (∃ fault, findTracked store.tracked observed.txHash = .error fault) ∨
    findTracked store.tracked observed.txHash = .ok none ∧
      match observed with
      | .migration migration =>
          ∃ fault, findMigration store.migrations migration.txHash = .error fault
      | .transfer transfer => isBankBound settings transfer = true ∧
          ((∃ fault, findDeposit store.deposits transfer.txHash = .error fault) ∨
            findDeposit store.deposits transfer.txHash = .ok none ∧
              history.confirms transfer.txHash = true ∧ Height.stored? transfer.height = none)
      | .other _ => False

end Handled

section Lasting

variable {settings : Settings} {history : History} {observed : Observed} {before after : Store}

theorem Admitted.still {value : Type} {txHash : String}
    {first second : Except Store.Fault (Option value)} (admitted : Admitted history txHash first)
    (still : Store.StillFound first second) : Admitted history txHash second := by
  obtain ⟨found, looked, present⟩ := admitted
  obtain ⟨later, there, yet⟩ := still found looked
  exact ⟨later, there, fun confirmed => yet (present confirmed)⟩

theorem Handled.lasts (handled : Handled settings history observed before)
    (lasts : Lasts before after) : Handled settings history observed after := by
  rcases handled with ⟨record, looked, settled⟩ | ⟨untracked, passed⟩
  · exact .inl ⟨record, lasts.terminal _ record looked settled, settled⟩
  · refine .inr ⟨lasts.untracked untracked, ?_⟩
    cases observed with
    | migration migration => exact Admitted.still passed (lasts.migrations _)
    | transfer transfer => exact fun bound => (passed bound).still (lasts.deposits _)
    | other txHash => trivial

theorem Handled.not_unsettled (handled : Handled settings history observed before) :
    ¬ Unsettled observed before := by
  rintro ⟨record, found, live⟩
  rcases handled with ⟨other, looked, settled⟩ | ⟨untracked, _⟩
  · rw [found] at looked
    cases looked
    rw [live] at settled
    cases settled
  · rw [found] at untracked
    cases untracked

theorem Handled.unconfirmed (handled : Handled settings history observed before)
    (missing : Missing settings observed before) :
    history.confirms observed.txHash = false := by
  obtain ⟨untracked, absent⟩ := missing
  have passed_over : ∀ {value : Type} {looked : Except Store.Fault (Option value)},
      Admitted history observed.txHash looked → looked = .ok none →
        history.confirms observed.txHash = false := by
    rintro value looked ⟨found, same, present⟩ none
    rw [none] at same
    cases same
    cases confirmed : history.confirms observed.txHash with
    | false => rfl
    | true => cases present confirmed
  rcases handled with ⟨record, looked, _⟩ | ⟨_, passed⟩
  · rw [untracked] at looked
    cases looked
  · cases observed with
    | migration migration => exact passed_over passed absent
    | transfer transfer => exact passed_over (passed absent.1) absent.2
    | other txHash => cases absent

theorem Missing.handled (missing : Missing settings observed before)
    (unconfirmed : history.confirms observed.txHash = false) :
    Handled settings history observed before := by
  have passed_over : ∀ {value : Type} {looked : Except Store.Fault (Option value)},
      looked = .ok none → Admitted history observed.txHash looked :=
    fun none => ⟨_, none, fun confirmed => by simp [unconfirmed] at confirmed⟩
  obtain ⟨untracked, absent⟩ := missing
  refine .inr ⟨untracked, ?_⟩
  cases observed with
  | migration migration => exact passed_over absent
  | transfer transfer => exact fun _ => passed_over absent.2
  | other txHash => trivial

theorem Handled.not_blocked (handled : Handled settings history observed before) :
    ¬ Blocked settings history observed before := by
  have admits : ∀ {value : Type} {txHash : String} {looked : Except Store.Fault (Option value)},
      Admitted history txHash looked → ∀ fault, looked ≠ .error fault := by
    rintro value txHash looked ⟨found, rfl, _⟩ fault failed
    cases failed
  rintro (⟨fault, failed⟩ | ⟨untracked, hindered⟩)
  · rcases handled with ⟨record, looked, _⟩ | ⟨looked, _⟩
    · cases looked.symm.trans failed
    · cases looked.symm.trans failed
  · rcases handled with ⟨record, looked, _⟩ | ⟨_, passed⟩
    · cases looked.symm.trans untracked
    · cases observed with
      | migration migration =>
          obtain ⟨fault, failed⟩ := hindered
          exact admits passed fault failed
      | transfer transfer =>
          obtain ⟨bound, ⟨fault, failed⟩ | ⟨absent, confirmed, _⟩⟩ := hindered
          · exact admits (passed bound) fault failed
          · obtain ⟨found, looked, present⟩ := passed bound
            rw [absent] at looked
            cases looked
            cases present confirmed
      | other txHash => exact hindered

theorem mem_of_admitted {row value : Type} {key : row → String}
    {read : row → Except Store.Fault value} {rows : List row} {txHash : String}
    (admitted : Admitted history txHash
      (Store.readOptional read (rows.find? fun row => key row = txHash)))
    (confirmed : history.confirms txHash = true) : txHash ∈ rows.map key := by
  obtain ⟨found, looked, present⟩ := admitted
  obtain ⟨record, rfl⟩ := Option.isSome_iff_exists.mp (present confirmed)
  exact Store.readOptional_mem looked

theorem Handled.mem_migrations {migration : Chain.Migration}
    (handled : Handled settings history (.migration migration) before)
    (untracked : migration.txHash ∉ before.tracked.map Store.TrackedRow.txHash)
    (confirmed : history.confirms migration.txHash = true) :
    migration.txHash ∈ before.migrations.map Store.MigrationRow.txHash := by
  rcases handled with ⟨record, looked, _⟩ | ⟨_, admitted⟩
  · exact (untracked (Store.readOptional_mem looked)).elim
  · exact mem_of_admitted admitted confirmed

theorem Handled.mem_deposits {transfer : Chain.Transfer}
    (handled : Handled settings history (.transfer transfer) before)
    (untracked : transfer.txHash ∉ before.tracked.map Store.TrackedRow.txHash)
    (bound : isBankBound settings transfer = true)
    (confirmed : history.confirms transfer.txHash = true) :
    transfer.txHash ∈ before.deposits.map Store.DepositRow.txHash := by
  rcases handled with ⟨record, looked, _⟩ | ⟨_, admitted⟩
  · exact (untracked (Store.readOptional_mem looked)).elim
  · exact mem_of_admitted (admitted bound) confirmed

theorem Handled.closed (handled : Handled settings history observed before)
    (distinct : (before.tracked.map Store.TrackedRow.txHash).Nodup) {row : Store.TrackedRow}
    (there : row ∈ before.tracked) (same : row.txHash = observed.txHash) :
    ∃ record, row.read = .ok record ∧ record.status.isTerminal = true := by
  rcases handled with ⟨record, looked, settled⟩ | ⟨untracked, _⟩
  · obtain ⟨other, hit, reads⟩ := Store.readOptional_some looked
    have hash : other.txHash = observed.txHash := by simpa using List.find?_some hit
    obtain rfl := List.inj_on_of_nodup_map distinct (List.mem_of_find?_eq_some hit) there
      (hash.trans same.symm)
    exact ⟨record, reads, settled⟩
  · have present := List.mem_map_of_mem (f := Store.TrackedRow.txHash) there
    rw [same] at present
    cases Store.isSome_of_mem untracked present

end Lasting

section Events

open Activity

variable {settings : Settings} {history : History} {answers : Answering Store}
  {elsewhere : Store → Store → Prop} {γ : Type} {disturbed : Prop}

def Since {world : World Store γ} (pact : Pact world) (start : Store) (holds : Store → Prop)
    (store : Store) : Prop :=
  ∃ earlier, pact.others start earlier ∧ pact.others earlier store ∧ holds earlier

inductive Effect (settings : Settings) (history : History) (answers : Answering Store)
    {world : World Store γ} (pact : Pact world) (observed : Observed) (start : Store) :
    Request → Store → Store → Prop where
  | stamp {store : Store} :
      Effect settings history answers pact observed start .stamp store store
  | read {statement : Store.Statement} {store : Store} (read : statement.isRead = true) :
      Effect settings history answers pact observed start (.storage statement) store store
  | look {store : Store}
      (waiting : Since pact start
        (fun store => Unsettled observed store ∨ Missing settings observed store) store) :
      Effect settings history answers pact observed start (.transaction observed.txHash) store
        store
  | settle {answer : Except Chain.Failure (Option Chain.TxResponse)} {moment before after : Store}
      {status : TxStatus} {message : Option String} {now : Timestamp}
      (answered : answers (.transaction observed.txHash) moment answer moment)
      (told : (status, message) = verdict answer)
      (live : Since pact start (Unsettled observed) before)
      (ran : Store.Statement.Ran (.settle observed.txHash status message now) before after) :
      Effect settings history answers pact observed start
        (.storage (.settle observed.txHash status message now)) before after
  | addMigration {migration : Chain.Migration} {id : Uuid} {now : Timestamp} {before after : Store}
      (kind : observed = .migration migration)
      (confirmed : history.confirms migration.txHash = true)
      (missing : Since pact start (Missing settings observed) before)
      (ran : Store.Statement.Ran
        (.addMigration ⟨id, migration.codeId, migration.txHash, none, now⟩) before after) :
      Effect settings history answers pact observed start
        (.storage (.addMigration ⟨id, migration.codeId, migration.txHash, none, now⟩)) before after
  | addDeposit {transfer : Chain.Transfer} {height : Int} {id : Uuid} {now : Timestamp}
      {before after : Store} (kind : observed = .transfer transfer)
      (fits : Height.stored? transfer.height = some height)
      (confirmed : history.confirms transfer.txHash = true)
      (missing : Since pact start (Missing settings observed) before)
      (ran : Store.Statement.Ran (.addDeposit ⟨id, transfer.sender, transfer.recipient,
        transfer.denom, transfer.amount, height, transfer.txHash, .inserted, now, now⟩) before
        after) :
      Effect settings history answers pact observed start (.storage (.addDeposit ⟨id,
        transfer.sender, transfer.recipient, transfer.denom, transfer.amount, height,
        transfer.txHash, .inserted, now, now⟩)) before after

theorem Effect.lasts {world : World Store γ} {pact : Pact world} {observed : Observed}
    {start before after : Store} {request : Request}
    (effect : Effect settings history answers pact observed start request before after)
    (identified : Identified before.tracked) : Lasts before after := by
  cases effect with
  | stamp | read | look => exact .refl _
  | settle _ _ _ ran => exact ran.lasts identified
  | addMigration _ _ _ ran => exact ran.lasts identified
  | addDeposit _ _ _ _ ran => exact ran.lasts identified

def Outcome (settings : Settings) (history : History) {world : World Store γ} (pact : Pact world)
    (disturbed : Prop) (observed : Observed) (start : Store) {ε α : Type} (result : Except ε α)
    (store : Store) : Prop :=
  match result with
  | .ok _ => Handled settings history observed store
  | .error _ => disturbed ∨ Since pact start (Blocked settings history observed) store

variable (manners : Manners history answers disturbed)
  {pact : Pact (World.shared γ answers elsewhere)}
  (lasts : ∀ {before after}, Identified before.tracked → pact.others before after →
    Lasts before after)
  {start : Store} (identified : Identified start.tracked) {observed : Observed}
  (allows : ∀ request before after, pact.others start before →
    Effect settings history answers pact observed start request before after →
    pact.own request before after)

include manners lasts identified allows

theorem abides_settle {state : Store} (since : pact.others start state)
    (seen : Since pact start (Unsettled observed) state)
    {answer : Except Chain.Failure (Option Chain.TxResponse)}
    (heard : ∃ store, answers (.transaction observed.txHash) store answer store)
    (now : Timestamp) (memory : γ) :
    (storage (.settle observed.txHash (verdict answer).1 (verdict answer).2 now)).Abides pact
      (fun _ result => Outcome settings history pact disturbed observed start result)
      memory state := by
  -- The verdict on an answer is written, or the row is terminal already.
  intro between passed reply after written
  obtain ⟨moment, answered⟩ := heard
  obtain ⟨earlier, sinceEarlier, toState, live⟩ := seen
  have toBetween := pact.trans toState passed
  have sinceBetween := pact.trans since passed
  have here := identified.lasts (lasts identified sinceBetween)
  constructor
  · exact allows _ _ _ sinceBetween (.settle answered rfl
      ⟨earlier, sinceEarlier, toBetween, live⟩ (manners.ran written))
  obtain ⟨tracked, found, _⟩ := live
  have earlierHere := identified.lasts (lasts identified sinceEarlier)
  have kept := lasts earlierHere toBetween
  obtain ⟨later, looked, _⟩ := kept.tracked _ _ found
  obtain ⟨rows, settled, ran⟩ := Store.run_settle_ok ⟨later, looked⟩
  cases reply with
  | error fault =>
      intro final _
      exact .inl (manners.fails written ⟨_, congrArg Prod.fst ran⟩)
  | ok _ =>
      intro final toFinal
      obtain ⟨_, wrote⟩ := manners.wrote written
      rw [ran] at wrote
      cases wrote
      have step : Lasts between { between with tracked := rows } := by
        have step := Store.Statement.lasts (.settle observed.txHash (verdict answer).1
          (verdict answer).2 now) here
        rwa [ran] at step
      obtain ⟨record, settled, terminal⟩ :=
        Store.settle_terminal here (verdict_terminal answer) settled
      obtain ⟨_, again, still⟩ := (kept.trans step).tracked _ _ found
      rw [settled] at again
      cases again
      obtain ⟨record, rfl⟩ := Option.isSome_iff_exists.mp (still rfl)
      have handled : Handled settings history observed { between with tracked := rows } :=
        .inl ⟨record, settled, terminal record rfl⟩
      exact handled.lasts (lasts (here.lasts step) toFinal)

theorem abides_reconcile {state : Store} (since : pact.others start state)
    {tracked : Store.Tracked}
    (found : findTracked state.tracked observed.txHash = .ok (some tracked)) (memory : γ) :
    (reconcile tracked).Abides pact (fun _ result =>
      Outcome settings history pact disturbed observed start result) memory state := by
  have hash := Store.txHash_findTracked found
  by_cases settled : tracked.status.isTerminal = true
  · unfold reconcile
    rw [if_pos settled]
    intro between passed
    have handled : Handled settings history observed state := .inl ⟨tracked, found, settled⟩
    exact handled.lasts (lasts (identified.lasts (lasts identified since)) passed)
  · have live : Unsettled observed state := ⟨tracked, found, by simpa using settled⟩
    unfold reconcile
    rw [if_neg settled, hash]
    intro _ toAsked answer asked answered
    obtain ⟨rfl, _⟩ := manners.within answered
    have sinceAsked := pact.trans since toAsked
    constructor
    · exact allows _ _ _ sinceAsked (.look ⟨state, since, toAsked, .inl live⟩)
    intro _ toStamped stamp stamped marked
    obtain rfl := manners.within marked
    have sinceStamped := pact.trans sinceAsked toStamped
    constructor
    · exact allows _ _ _ sinceStamped .stamp
    · exact abides_settle manners lasts identified allows sinceStamped
        ⟨state, since, pact.trans toAsked toStamped, live⟩ ⟨asked, answered⟩ stamp.time memory

omit lasts identified in
theorem abides_isConfirmed {state : Store} (since : pact.others start state)
    (missing : Missing settings observed state) (memory : γ) :
    (isConfirmed observed.txHash).Abides pact (fun _ result store => pact.others state store ∧
      match result with
      | .ok confirmed => confirmed = history.confirms observed.txHash
      | .error _ => disturbed) memory state := by
  intro _ toAsked reply asked answered
  obtain ⟨rfl, told⟩ := manners.within answered
  constructor
  · exact allows _ _ _ (pact.trans since toAsked) (.look ⟨state, since, toAsked, .inr missing⟩)
  rcases told with rfl | ⟨failure, rfl⟩
  · unfold History.confirms
    cases history.transaction observed.txHash with
    | none => exact fun between passed => ⟨pact.trans toAsked passed, rfl⟩
    | some tx => exact fun between passed => ⟨pact.trans toAsked passed, rfl⟩
  · exact fun between passed => ⟨pact.trans toAsked passed, manners.transaction answered⟩

theorem abides_insert {state : Store} (since : pact.others start state)
    {statement : Store.Statement} (effect : ∀ between after, pact.others state between →
      statement.Ran between after →
      Effect settings history answers pact observed start (.storage statement) between after)
    (works : ∀ store, Store.Succeeds (statement.run store).1)
    (handles : ∀ between, statement.IsFresh between → Lasts state (statement.run between).2 →
      Handled settings history observed (statement.run between).2) (memory : γ) :
    Abides pact (fun _ result => Outcome settings history pact disturbed observed start result)
      (discard (storage statement)) memory state := by
  have here := identified.lasts (lasts identified since)
  apply Abides.discard
  intro between passed reply after written
  constructor
  · exact allows _ _ _ (pact.trans since passed) (effect between after passed (manners.ran written))
  cases reply with
  | error fault =>
      intro final _
      exact .inl (manners.fails written (works between))
  | ok value =>
      intro final toFinal
      obtain ⟨fresh, wrote⟩ := manners.wrote written
      have kept := lasts here passed
      have whole := kept.trans (statement.lasts (here.lasts kept))
      have handled := handles between fresh whole
      rw [wrote] at handled whole
      exact handled.lasts (lasts (here.lasts whole) toFinal)

theorem abides_confirmed {state : Store} (since : pact.others start state)
    (missing : Missing settings observed state) {insert : Stamp → Activity Failure Unit}
    (inserts : ∀ stamp between memory, pact.others state between →
      history.confirms observed.txHash = true →
      (insert stamp).Abides pact (fun _ result =>
        Outcome settings history pact disturbed observed start result) memory between)
    (memory : γ) :
    Abides pact (fun _ result => Outcome settings history pact disturbed observed start result)
      (do
        if ← isConfirmed observed.txHash then
          let stamp ← Activity.request .stamp
          insert stamp) memory state := by
  have here := identified.lasts (lasts identified since)
  refine (abides_isConfirmed manners allows since missing memory).bind ?_ ?_
  · rintro memory confirmed asked ⟨toAsked, told⟩
    cases confirmed with
    | false =>
        intro between passed
        exact (missing.handled told.symm).lasts (lasts here (pact.trans toAsked passed))
    | true =>
        intro _ toStamped stamp stamped marked
        obtain rfl := manners.within marked
        have toHere := pact.trans toAsked toStamped
        constructor
        · exact allows _ _ _ (pact.trans since toHere) .stamp
        · exact inserts stamp _ _ toHere told.symm
  · rintro memory failure store ⟨_, cause⟩
    exact .inl cause

theorem abides_admitMigration {state : Store} (since : pact.others start state)
    {migration : Chain.Migration} (kind : observed = .migration migration)
    (missing : Missing settings observed state) (memory : γ) :
    (admitMigration migration).Abides pact (fun _ result =>
      Outcome settings history pact disturbed observed start result) memory state := by
  subst kind
  have here := identified.lasts (lasts identified since)
  refine abides_confirmed manners lasts identified allows since missing ?_ memory
  intro stamp between memory toBetween confirmed
  apply abides_insert manners lasts identified allows (pact.trans since toBetween)
  · intro inserted after passed ran
    exact .addMigration rfl confirmed ⟨state, since, pact.trans toBetween passed, missing⟩ ran
  · exact Store.succeeds_insertMigration _
  · intro inserted fresh step
    have whole := (lasts here toBetween).trans step
    obtain ⟨found, looked, _⟩ := whole.migrations _ _ missing.2
    exact .inr ⟨whole.untracked missing.1, found, looked,
      fun _ => Store.isSome_of_mem looked (Store.mem_insertMigration fresh)⟩

theorem abides_admitTransfer {state : Store} (since : pact.others start state)
    {transfer : Chain.Transfer} (kind : observed = .transfer transfer)
    (missing : Missing settings observed state) (memory : γ) :
    (admitTransfer transfer).Abides pact (fun _ result =>
      Outcome settings history pact disturbed observed start result) memory state := by
  subst kind
  have here := identified.lasts (lasts identified since)
  obtain ⟨untracked, bound, absent⟩ := missing
  have missing : Missing settings (.transfer transfer) state := ⟨untracked, bound, absent⟩
  refine abides_confirmed manners lasts identified allows since missing ?_ memory
  intro stamp between memory toBetween confirmed
  cases fits : Height.stored? transfer.height with
  | none =>
      intro final passed
      refine .inr ⟨state, since, pact.trans toBetween passed, .inr ⟨untracked, bound, ?_⟩⟩
      exact .inr ⟨absent, confirmed, fits⟩
  | some height =>
      apply abides_insert manners lasts identified allows (pact.trans since toBetween)
      · intro inserted after passed ran
        exact .addDeposit rfl fits confirmed ⟨state, since, pact.trans toBetween passed, missing⟩
          ran
      · exact Store.succeeds_insertDeposit _
      · intro inserted fresh step
        have whole := (lasts here toBetween).trans step
        obtain ⟨found, looked, _⟩ := whole.deposits _ _ absent
        exact .inr ⟨whole.untracked untracked, fun _ => ⟨found, looked,
          fun _ => Store.isSome_of_mem looked (Store.mem_insertDeposit fresh)⟩⟩

theorem abides_admitObserved {state : Store} (since : pact.others start state)
    (untracked : findTracked state.tracked observed.txHash = .ok none) (memory : γ) :
    (admitObserved settings observed).Abides pact (fun _ result =>
      Outcome settings history pact disturbed observed start result) memory state := by
  have here := identified.lasts (lasts identified since)
  have still : ∀ {store}, pact.others state store →
      findTracked store.tracked observed.txHash = .ok none :=
    fun passed => (lasts here passed).untracked untracked
  have stays : ∀ {store}, pact.others state store → Handled settings history observed store →
      ∀ between, pact.others store between → Handled settings history observed between :=
    fun passed handled between further =>
      handled.lasts (lasts (here.lasts (lasts here passed)) further)
  cases observed with
  | migration migration =>
      intro _ toLooked reply looked answered
      obtain ⟨rfl, told⟩ := manners.read rfl answered
      have sinceLooked := pact.trans since toLooked
      constructor
      · exact allows _ _ _ sinceLooked (.read rfl)
      cases reply with
      | error fault =>
          intro between passed
          rcases told with cause | failed
          · exact .inl cause
          · exact .inr ⟨looked, sinceLooked, passed, .inr ⟨still toLooked, fault, failed⟩⟩
      | ok found =>
          cases found with
          | none =>
              exact abides_admitMigration manners lasts identified allows sinceLooked rfl
                ⟨still toLooked, told⟩ memory
          | some record =>
              exact stays toLooked (.inr ⟨still toLooked, some record, told, fun _ => rfl⟩)
  | transfer transfer =>
      simp only [admitObserved]
      cases bound : isBankBound settings transfer with
      | false =>
          intro between passed
          have handled : Handled settings history (.transfer transfer) state :=
            .inr ⟨untracked, fun other => by simp [bound] at other⟩
          exact handled.lasts (lasts here passed)
      | true =>
          intro _ toLooked reply looked answered
          obtain ⟨rfl, told⟩ := manners.read rfl answered
          have sinceLooked := pact.trans since toLooked
          constructor
          · exact allows _ _ _ sinceLooked (.read rfl)
          cases reply with
          | error fault =>
              intro between passed
              rcases told with cause | failed
              · exact .inl cause
              · exact .inr ⟨looked, sinceLooked, passed,
                  .inr ⟨still toLooked, bound, .inl ⟨fault, failed⟩⟩⟩
          | ok found =>
              cases found with
              | none =>
                  exact abides_admitTransfer manners lasts identified allows sinceLooked rfl
                    ⟨still toLooked, bound, told⟩ memory
              | some record =>
                  exact stays toLooked
                    (.inr ⟨still toLooked, fun _ => ⟨some record, told, fun _ => rfl⟩⟩)
  | other txHash =>
      intro between passed
      exact .inr ⟨still passed, trivial⟩

theorem abides_handleObserved (memory : γ) :
    (handleObserved settings observed).Abides pact (fun _ result =>
      Outcome settings history pact disturbed observed start result) memory start := by
  intro _ toLooked reply looked answered
  obtain ⟨rfl, told⟩ := manners.read rfl answered
  constructor
  · exact allows _ _ _ toLooked (.read rfl)
  cases reply with
  | error fault =>
      intro between passed
      rcases told with cause | failed
      · exact .inl cause
      · exact .inr ⟨looked, toLooked, passed, .inl ⟨fault, failed⟩⟩
  | ok found =>
      cases found with
      | none => exact abides_admitObserved manners lasts identified allows toLooked told memory
      | some tracked => exact abides_reconcile manners lasts identified allows toLooked told memory

end Events

end Consumer

end Settlement
