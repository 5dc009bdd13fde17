import Settlement.Proofs.Consumer.Portions

/-!
The transactions of a batch do not depend on one another. However its events are put in order and
cut into portions, as long as those of one transaction stay in their order, the tables say the same
in the end, and about each transaction they say what its own events make of it.
-/

namespace Settlement

open Store (TrackedRow MigrationRow DepositRow Identified Unique Lasts SameRecords findTracked
  findMigration findDeposit)

section Tables

variable {row : Type} {key : row → String} {core : row → row} {rows one other : List row}

theorem find?_of_mem (distinct : (rows.map key).Nodup) {item : row} (member : item ∈ rows) :
    (rows.find? fun other => key other = key item) = some item := by
  cases found : rows.find? (fun other => key other = key item) with
  | none => simpa using List.find?_eq_none.mp found item member
  | some other =>
      have same : key other = key item := by simpa using List.find?_some found
      rw [List.inj_on_of_nodup_map distinct (List.mem_of_find?_eq_some found) member same]

theorem map_eq_lookups (core : row → row) (distinct : (rows.map key).Nodup) : rows.map core =
    (rows.map key).filterMap fun wanted =>
      (rows.find? fun item => key item = wanted).map core := by
  rw [List.filterMap_map, ← List.filterMap_eq_map]
  refine List.filterMap_congr fun item member => ?_
  simp only [Function.comp_apply, find?_of_mem distinct member, Option.map_some]

theorem perm_of_lookups (same_key : ∀ item, key (core item) = key item)
    (left : (one.map key).Nodup) (right : (other.map key).Nodup)
    (same : ∀ wanted, (one.find? fun item => key item = wanted).map core =
      (other.find? fun item => key item = wanted).map core) :
    (one.map core).Perm (other.map core) := by
  have cores : ∀ rows : List row, (rows.map core).map key = rows.map key := by
    intro rows
    rw [List.map_map]
    exact List.map_congr_left fun item _ => same_key item
  have moves : ∀ {here there : List row}, (here.map key).Nodup →
      (∀ wanted, (here.find? fun item => key item = wanted).map core =
        (there.find? fun item => key item = wanted).map core) →
      ∀ item ∈ here.map core, item ∈ there.map core := by
    rintro here there distinct same item member
    obtain ⟨item, inHere, rfl⟩ := List.mem_map.mp member
    have found := same (key item)
    rw [find?_of_mem distinct inHere, Option.map_some] at found
    obtain ⟨twin, hit, equal⟩ := Option.map_eq_some_iff.mp found.symm
    exact List.mem_map.mpr ⟨twin, List.mem_of_find?_eq_some hit, equal⟩
  refine (List.perm_ext_iff_of_nodup ?_ ?_).mpr fun item => ⟨?_, ?_⟩
  · exact .of_map key (by rwa [cores])
  · exact .of_map key (by rwa [cores])
  · exact moves left same item
  · exact moves right (fun wanted => (same wanted).symm) item

end Tables

namespace Consumer

open Activity
open DepositQueue (oneDeposit)

variable {settings : Settings} {history : History} {last : Nat} {batch : Chain.Batch}
  {start state store final : Store} {observed : Observed}

section Legible

/-- What the handling of the event looks up can be read. -/
def Legible (settings : Settings) (observed : Observed) (store : Store) : Prop :=
  Store.Succeeds (findTracked store.tracked observed.txHash) ∧
  (findTracked store.tracked observed.txHash = .ok none →
    match observed with
    | .migration migration => Store.Succeeds (findMigration store.migrations migration.txHash)
    | .transfer transfer => isBankBound settings transfer = true →
        Store.Succeeds (findDeposit store.deposits transfer.txHash)
    | .other _ => True)

theorem Handled.legible (handled : Handled settings history observed store) :
    Legible settings observed store := by
  rcases handled with ⟨record, looked, _⟩ | ⟨looked, passed⟩
  · refine ⟨⟨_, looked⟩, fun untracked => ?_⟩
    rw [looked] at untracked
    cases untracked
  · refine ⟨⟨_, looked⟩, fun _ => ?_⟩
    cases observed with
    | migration migration =>
        obtain ⟨found, looked, _⟩ := passed
        exact ⟨found, looked⟩
    | transfer transfer =>
        intro bound
        obtain ⟨found, looked, _⟩ := passed bound
        exact ⟨found, looked⟩
    | other txHash => trivial

theorem Legible.before {batches : List Chain.Batch}
    (gained : Gained settings history batches start store) (lasts : Lasts start store)
    (legible : Legible settings observed store) : Legible settings observed start := by
  obtain ⟨looked, rest⟩ := legible
  refine ⟨succeeds_start gained looked, fun untracked => ?_⟩
  have rest := rest (lasts.untracked untracked)
  cases observed with
  | migration migration => exact gained.migrations.succeeds rest
  | transfer transfer => exact fun bound => gained.deposits.succeeds (rest bound)
  | other txHash => trivial

theorem Legible.not_blocked (legible : Legible settings observed start)
    (lasts : Lasts start store)
    (fits : ∀ transfer, observed = .transfer transfer → Height.stored? transfer.height ≠ none) :
    ¬ Blocked settings history observed store := by
  obtain ⟨⟨found, looked⟩, rest⟩ := legible
  rintro (⟨fault, failed⟩ | ⟨untracked, hindered⟩)
  · exact (lasts.tracked _).works ⟨found, looked⟩ fault failed
  · have before : findTracked start.tracked observed.txHash = .ok none := by
      cases found with
      | none => exact looked
      | some record =>
          obtain ⟨later, relooked, still⟩ := lasts.tracked _ _ looked
          cases relooked.symm.trans untracked
          cases still rfl
    have rest := rest before
    cases observed with
    | migration migration =>
        obtain ⟨fault, failed⟩ := hindered
        exact (lasts.migrations _).works rest fault failed
    | transfer transfer =>
        obtain ⟨bound, ⟨fault, failed⟩ | ⟨_, _, misfit⟩⟩ := hindered
        · exact (lasts.deposits _).works (rest bound) fault failed
        · exact fits transfer rfl misfit
    | other txHash => exact hindered

end Legible

section Portions

def LegibleEvents (settings : Settings) (events : List Chain.Event) (store : Store) : Prop :=
  ∀ event ∈ events, ∀ observed ∈ settings.observed ⟨event.height, [event]⟩,
    Legible settings observed store

theorem mem_observed : observed ∈ settings.observed batch ↔
    ∃ event ∈ batch.events, observed ∈ settings.observed ⟨event.height, [event]⟩ := by
  simp only [Settings.observed, observe, Chain.Batch.mints, Chain.Batch.burns,
    Chain.Batch.redemptions, Chain.Batch.transfers, Chain.Batch.migrations, Chain.Batch.actions,
    List.mem_append, List.mem_map, List.mem_filter, List.mem_singleton]
  grind

theorem fits_observed (fits : ∀ event ∈ batch.events, Height.stored? event.height ≠ none)
    (member : observed ∈ settings.observed batch) :
    ∀ transfer, observed = .transfer transfer → Height.stored? transfer.height ≠ none := by
  rintro transfer rfl
  have member : transfer ∈ batch.transfers settings.contract := by
    simpa [Settings.observed, observe] using member
  obtain ⟨event, there, rfl⟩ := List.mem_map.mp member
  exact fits event (List.mem_filter.mp there).1

theorem Gained.unique {batches : List Chain.Batch}
    (gained : Gained settings history batches start store) (unique : Unique start) :
    Unique store where
  tracked := by
    rw [gained.hashes]
    exact unique.tracked
  migrations := gained.migrations.nodup
  deposits := gained.deposits.nodup
  movements := gained.movements.nodup

theorem keeps_portion (identified : Identified start.tracked) (unique : Unique start) :
    (handleEvents settings batch (batch.transfers settings.contract)).Keeps (history.steady last)
      (fun _ _ => True) (fun result after =>
        match result with
        | .ok _ => Between settings history batch start (settings.observed batch) after
        | .error _ => ∃ observed ∈ settings.observed batch, ∃ met, Lasts start met ∧
            Blocked settings history observed met) start := by
  have faithful : Faithful (fun txHash => .ok (history.transaction txHash)) history
      (history.steady last) := ⟨history.answers_steady last, And.right, fun _ => .inl rfl⟩
  let pact := gaining settings history [batch] (history.steady last) start
  have verdicts : ∀ {txHash before answer after},
      history.steady last (.transaction txHash) before answer after →
      verdict answer = verdict (.ok (history.transaction txHash)) :=
    fun answered => congrArg verdict answered.2
  have lasts : ∀ {before after}, Identified before.tracked → pact.others before after →
      Lasts before after := fun known passed => passed.2 known
  have events := abides_handleEvents (manners_steady history last) lasts identified
    (fun request before after passed conducted =>
      gains_conducted verdicts (List.mem_singleton.mpr rfl) identified (.refl unique) conducted)
    [batch]
  refine (events.keeps.and (faithful.keeps_handleEvents identified unique)).mono ?_
  rintro result after ⟨⟨_, ended⟩, between⟩
  cases result with
  | ok value => exact between
  | error failure =>
      rcases ended with cause | ⟨observed, met, since, _, due, blocked⟩
      · exact cause.elim
      · exact ⟨observed, due.mem, met, since.2 identified, blocked⟩

/-- These events have made of every transaction what they make of it, and nothing else has
changed. -/
structure Covered (settings : Settings) (history : History) (start : Store)
    (events : List Chain.Event) (store : Store) : Prop where
  lasts : Lasts start store
  unique : Unique store
  unconcerned : Unconcerned start store
  rows : ∀ txHash, store.rowsOf txHash =
    rowsAfter settings history txHash (Chain.eventsOf txHash events) (start.rowsOf txHash)
  back : ∀ observed, Legible settings observed store → Legible settings observed start
  legible : LegibleEvents settings events start

def Completed (settings : Settings) (history : History) (start : Store) (events : List Chain.Event)
    (result : Except Failure Unit) (store : Store) : Prop :=
  match result with
  | .ok _ => Covered settings history start events store
  | .error _ => ¬ LegibleEvents settings events start

theorem Completed.ok_iff {events : List Chain.Event} {result : Except Failure Unit}
    (ended : Completed settings history start events result store) :
    result = .ok () ↔ LegibleEvents settings events start := by
  cases result with
  | ok value => exact iff_of_true rfl (Covered.legible ended)
  | error failure => exact iff_of_false nofun ended

theorem Covered.begun (unique : Unique start) : Covered settings history start [] start where
  lasts := .refl start
  unique := unique
  unconcerned := ⟨rfl, rfl⟩
  rows txHash := by simp [Chain.eventsOf, rowsAfter, migrationDue, depositDue]
  back _ := id
  legible _ member := nomatch member

variable {done : List Chain.Event}

theorem Covered.more (covered : Covered settings history start done state)
    (fits : ∀ event ∈ done, Height.stored? event.height ≠ none)
    (between : Between settings history batch state (settings.observed batch) final) :
    Covered settings history start (done ++ batch.events) final where
  lasts := covered.lasts.trans between.lasts
  unique := between.gained.unique covered.unique
  unconcerned := ⟨between.unconcerned.1.trans covered.unconcerned.1,
    between.unconcerned.2.trans covered.unconcerned.2⟩
  rows txHash := by
    have faithful : Faithful (fun txHash => .ok (history.transaction txHash)) history
        (history.steady 0) := ⟨history.answers_steady 0, And.right, fun _ => .inl rfl⟩
    have follows : Follows settings (fun txHash => .ok (history.transaction txHash)) history batch
        state True final := between.follows (fun _ => rfl) faithful covered.unique
    have fits : ∀ event ∈ Chain.eventsOf txHash done, Height.stored? event.height ≠ none :=
      fun event member => fits event (Chain.mem_eventsOf.mp member).1
    rw [follows.rowsOf, covered.rows, ← rowsAfter_append _ fits, Chain.eventsOf_append]
  back observed legible := covered.back observed (legible.before between.gained between.lasts)
  legible := by
    intro event member observed shown
    rcases List.mem_append.mp member with earlier | now
    · exact covered.legible event earlier observed shown
    · have handled := between.handled observed (mem_observed.mpr ⟨event, now, shown⟩)
      exact covered.back observed (handled.legible.before between.gained between.lasts)

theorem Covered.keeps_portion (identified : Identified start.tracked)
    (covered : Covered settings history start done state)
    (fitsDone : ∀ event ∈ done, Height.stored? event.height ≠ none)
    (fits : ∀ event ∈ batch.events, Height.stored? event.height ≠ none) :
    (handleEvents settings batch (batch.transfers settings.contract)).Keeps (history.steady last)
      (fun _ _ => True) (Completed settings history start (done ++ batch.events)) state := by
  refine (Consumer.keeps_portion (identified.lasts covered.lasts) covered.unique).mono ?_
  intro result after ended
  cases result with
  | ok value => exact covered.more fitsDone ended
  | error failure =>
      obtain ⟨observed, member, met, since, blocked⟩ := ended
      obtain ⟨event, there, shown⟩ := mem_observed.mp member
      intro legible
      have reads := legible event (List.mem_append_right done there) observed shown
      exact reads.not_blocked (covered.lasts.trans since) (fits_observed fits member) blocked

variable {parts : List Chain.Batch}

def allEvents (parts : List Chain.Batch) : List Chain.Event := parts.flatMap (·.events)

theorem keeps_portions (identified : Identified start.tracked) (unique : Unique start)
    (fits : ∀ event ∈ allEvents parts, Height.stored? event.height ≠ none) :
    (forEach (fun part => handleEvents settings part (part.transfers settings.contract))
      parts).Keeps (history.steady last) (fun _ _ => True)
      (Completed settings history start (allEvents parts)) start := by
  refine (@keeps_forEach _ _ _ _ _ _
    (fun earlier => Covered settings history start (allEvents earlier))
    (fun _ _ => ¬ LegibleEvents settings (allEvents parts) start) _ ?_ (.begun unique)).mono ?_
  · rintro earlier part later rfl state covered
    have whole : allEvents (earlier ++ [part]) = allEvents earlier ++ part.events := by
      simp [allEvents]
    have within : ∀ event ∈ allEvents earlier ++ part.events,
        event ∈ allEvents (earlier ++ part :: later) := by
      intro event member
      rw [allEvents, List.flatMap_append, List.flatMap_cons, ← List.append_assoc]
      exact List.mem_append_left _ member
    refine (covered.keeps_portion identified
      (fun event member => fits event (within event (List.mem_append_left _ member)))
      (fun event member => fits event (within event (List.mem_append_right _ member)))).mono ?_
    intro result after ended
    rw [← whole] at ended within
    cases result with
    | ok value => exact ended
    | error failure =>
        exact fun legible => ended fun event member => legible event (within event member)
  · intro result after ended
    cases result <;> exact ended

theorem sameRecords_of_rows {events others : List Chain.Event} {one other : Store}
    (left : Covered settings history start events one)
    (right : Covered settings history start others other)
    (same : ∀ txHash, one.rowsOf txHash = other.rowsOf txHash) : SameRecords one other where
  tracked := by
    rw [map_eq_lookups TrackedRow.core left.unique.tracked,
      map_eq_lookups TrackedRow.core right.unique.tracked, left.lasts.hashes, right.lasts.hashes]
    exact List.filterMap_congr fun txHash _ => congrArg Store.Rows.tracked (same txHash)
  migrations := perm_of_lookups (fun _ => rfl) left.unique.migrations right.unique.migrations
    fun txHash => congrArg Store.Rows.migration (same txHash)
  deposits := perm_of_lookups (fun _ => rfl) left.unique.deposits right.unique.deposits
    fun txHash => congrArg Store.Rows.deposit (same txHash)
  movements := by rw [left.unconcerned.2, right.unconcerned.2]

end Portions

/-- The events of a batch can be handled exactly if everything can be read that they look up, and
so they can in every order and in any portions that keep each transaction's events in order. What
is left then is the same, and about a transaction it is what its own events alone leave. -/
theorem transactions_are_independent (identified : Identified start.tracked)
    (unique : Unique start)
    (fits : ∀ event ∈ batch.events, Height.stored? event.height ≠ none)
    {result : Except Failure Unit}
    (handled : Activity.Run (history.steady last) (fun _ => False)
      (handleEvents settings batch (batch.transfers settings.contract)) start (.done result)
      final) :
    (result = .ok () ↔ ∀ observed ∈ settings.observed batch, Legible settings observed start) ∧
    (∀ parts, (∀ txHash, Chain.eventsOf txHash (allEvents parts) =
        Chain.eventsOf txHash batch.events) →
      ∀ another other, Activity.Run (history.steady last) (fun _ => False)
        (forEach (fun part => handleEvents settings part (part.transfers settings.contract)) parts)
        start (.done another) other →
      (another = .ok () ↔ result = .ok ()) ∧ (result = .ok () → SameRecords final other)) ∧
    (∀ txHash another other, Activity.Run (history.steady last) (fun _ => False)
        (handleEvents settings (batch.only txHash) ((batch.only txHash).transfers settings.contract))
        start (.done another) other →
      result = .ok () → another = .ok () ∧ other.rowsOf txHash = final.rowsOf txHash) := by
  -- However the events are divided, a run covers its events, and these tell what it leaves.
  have run : ∀ {batch : Chain.Batch} {result : Except Failure Unit} {final : Store},
      (∀ event ∈ batch.events, Height.stored? event.height ≠ none) →
      Activity.Run (history.steady last) (fun _ => False)
        (handleEvents settings batch (batch.transfers settings.contract)) start (.done result)
        final → Completed settings history start batch.events result final := fun fits handled =>
    handled.keeps_once ((Covered.begun unique).keeps_portion identified (by simp) fits)
  have ended := run fits handled
  refine ⟨?_, ?_, ?_⟩
  · rw [ended.ok_iff]
    constructor
    · intro legible observed member
      obtain ⟨event, there, shown⟩ := mem_observed.mp member
      exact legible event there observed shown
    · intro legible event there observed shown
      exact legible observed (mem_observed.mpr ⟨event, there, shown⟩)
  · intro parts streams another other ran
    have same : ∀ event, event ∈ allEvents parts ↔ event ∈ batch.events := by
      intro event
      have stream := congrArg (event ∈ ·) (streams event.txHash)
      simpa using stream
    have endedParts : Completed settings history start (allEvents parts) another other :=
      ran.keeps_once
        (keeps_portions identified unique fun event member => fits event ((same event).mp member))
    have both : another = .ok () ↔ result = .ok () := by
      rw [ended.ok_iff, endedParts.ok_iff]
      simp only [LegibleEvents, same]
    refine ⟨both, fun finished => ?_⟩
    obtain rfl := both.mpr finished
    subst finished
    have left : Covered settings history start batch.events final := ended
    have right : Covered settings history start (allEvents parts) other := endedParts
    exact sameRecords_of_rows left right fun txHash => by rw [left.rows, right.rows, streams]
  · intro txHash another other ran finished
    have within : ∀ event ∈ (batch.only txHash).events, event ∈ batch.events :=
      fun event member => (Chain.mem_eventsOf.mp member).1
    have endedOnly := run (fun event member => fits event (within event member)) ran
    have legible := ended.ok_iff.mp finished
    have alone : another = .ok () :=
      endedOnly.ok_iff.mpr fun event member => legible event (within event member)
    refine ⟨alone, ?_⟩
    subst alone finished
    have left : Covered settings history start batch.events final := ended
    have right : Covered settings history start (batch.only txHash).events other := endedOnly
    rw [left.rows, right.rows]
    simp [Chain.Batch.only, Chain.eventsOf]

/-! A transfer and a migration, in one batch and one after the other. -/

def migrates (txHash codeId : String) : Chain.Event :=
  ⟨Chain.Event.migrationType, txHash, 1, [("_contract_address", "c"), ("code_id", codeId)]⟩

def mixed : Chain.Batch := ⟨1, bankBound.events ++ [migrates "U" "7"]⟩

def oneMigrated : Store.Migration := ⟨zeroStamp.id, "7", "U", none, zeroStamp.time⟩

/-- The one batch has the transfer handled first, the two have the migration handled first. -/
theorem transfer_and_migration_change_places : SameRecords
    { Store.empty with deposits := [oneDeposit.row], migrations := [oneMigrated.row] }
    { Store.empty with
      deposits := [laterDeposit.row]
      migrations := [{ oneMigrated with id := laterStamp.id }.row] } := by
  let steady := approving.steady 0
  have tracked : ∀ txHash store, store.tracked = [] →
      steady (.storage (.tracked txHash)) store (.ok none) store := by
    rintro txHash ⟨cursors, tracked, deposits, migrations, movements, registrations⟩ rfl
    exact ⟨trivial, rfl⟩
  have confirms : ∀ txHash store,
      steady (.transaction txHash) store (.ok (some ⟨txHash, 1, 0, ""⟩)) store :=
    fun _ _ => ⟨rfl, rfl⟩
  have stamps : ∀ stamp store, steady .stamp store stamp store := fun _ _ => rfl
  -- The batch asks for the transfer first.
  have begun : Activity.Run steady (fun _ => False)
    (handleEvents fromGenesis mixed (mixed.transfers fromGenesis.contract)) .empty _ _ := .begin
  have absent := (begun.answer (tracked "T" _ rfl)).answer
    (show steady (.storage (.deposit "T")) _ (.ok none) _ from ⟨trivial, rfl⟩)
  have stamped := (absent.answer (confirms "T" _)).answer (stamps zeroStamp _)
  have deposited := stamped.answer (show steady (.storage (.addDeposit oneDeposit)) _ (.ok true)
    { Store.empty with deposits := [oneDeposit.row] } from ⟨nofun, rfl⟩)
  have absent := (deposited.answer (tracked "U" _ rfl)).answer
    (show steady (.storage (.migration "U")) _ (.ok none) _ from ⟨trivial, rfl⟩)
  have stamped := (absent.answer (confirms "U" _)).answer (stamps zeroStamp _)
  have handled := stamped.answer (show steady (.storage (.addMigration oneMigrated)) _ (.ok true)
    { Store.empty with deposits := [oneDeposit.row], migrations := [oneMigrated.row] }
    from ⟨nofun, rfl⟩)
  -- The portions ask for the migration first.
  let later : Store.Migration := { oneMigrated with id := laterStamp.id }
  let parts : List Chain.Batch := [⟨1, [migrates "U" "7"]⟩, bankBound]
  have begun : Activity.Run steady (fun _ => False)
    (forEach (fun part => handleEvents fromGenesis part (part.transfers fromGenesis.contract))
      parts) .empty _ _ := .begin
  have absent := (begun.answer (tracked "U" _ rfl)).answer
    (show steady (.storage (.migration "U")) _ (.ok none) _ from ⟨trivial, rfl⟩)
  have stamped := (absent.answer (confirms "U" _)).answer (stamps laterStamp _)
  have migrated := stamped.answer (show steady (.storage (.addMigration later)) _ (.ok true)
    { Store.empty with migrations := [later.row] } from ⟨nofun, rfl⟩)
  have absent := (migrated.answer (tracked "T" _ rfl)).answer
    (show steady (.storage (.deposit "T")) _ (.ok none) _ from ⟨trivial, rfl⟩)
  have stamped := (absent.answer (confirms "T" _)).answer (stamps laterStamp _)
  have portioned := stamped.answer (show steady (.storage (.addDeposit laterDeposit)) _ (.ok true)
    { Store.empty with deposits := [laterDeposit.row], migrations := [later.row] }
    from ⟨nofun, rfl⟩)
  have identified : Identified Store.empty.tracked := ⟨.nil, nofun⟩
  have unique : Unique Store.empty := ⟨.nil, .nil, .nil, .nil⟩
  have fits : ∀ event ∈ mixed.events, Height.stored? event.height ≠ none := by decide
  have streams : ∀ txHash, Chain.eventsOf txHash (allEvents parts) =
      Chain.eventsOf txHash mixed.events := by
    intro txHash
    by_cases transfer : "T" = txHash
    · subst transfer
      rfl
    · simp [Chain.eventsOf, allEvents, parts, mixed, bankBound, List.filter_cons, transfer]
  exact ((transactions_are_independent identified unique fits handled).2.1 parts streams _ _
    portioned).2 rfl

/-! Rows that the service never writes: one with an unknown status, and two whose ids are one. -/

def twoMigrations : Chain.Batch := ⟨1, [migrates "D" "7", migrates "U" "7"]⟩

def awaited (id txHash status : String) : TrackedRow :=
  ⟨id, txHash, "MINT_CONTRACT", status, none, zeroStamp.time.stored, zeroStamp.time.stored⟩

def unreadable : Store :=
  { Store.empty with tracked := [awaited Uuid.zero.text "D" "LOST"] }

def oneMint : Chain.Batch := ⟨1, [⟨Chain.Event.contractType, "A", 1,
  [("_contract_address", "c"), ("action", "mint")]⟩]⟩

def sharedId : Store := { Store.empty with tracked := [
  awaited "00000000-0000-0000-0000-00000000000A" "A" "PENDING",
  awaited "00000000-0000-0000-0000-00000000000a" "B" "PENDING"] }

/-- The unreadable row keeps the migration of another transaction out, and the event of one
transaction settles the row of the other. -/
theorem odd_rows_tie_transactions :
    (∃ failure final other,
      Activity.Run (approving.steady 0) (fun _ => False) (handleEvents fromGenesis twoMigrations
        (twoMigrations.transfers fromGenesis.contract)) unreadable (.done (.error failure)) final ∧
      Activity.Run (approving.steady 0) (fun _ => False) (handleEvents fromGenesis
        (twoMigrations.only "U") ((twoMigrations.only "U").transfers fromGenesis.contract))
        unreadable (.done (.ok ())) other ∧
      other.rowsOf "U" ≠ final.rowsOf "U") ∧
    ∃ final,
      Activity.Run (approving.steady 0) (fun _ => False) (handleEvents fromGenesis oneMint
        (oneMint.transfers fromGenesis.contract)) sharedId (.done (.ok ())) final ∧
      Activity.Run (approving.steady 0) (fun _ => False) (handleEvents fromGenesis
        (oneMint.only "B") ((oneMint.only "B").transfers fromGenesis.contract))
        sharedId (.done (.ok ())) sharedId ∧
      final.rowsOf "B" ≠ sharedId.rowsOf "B" := by
  let steady := approving.steady 0
  constructor
  · have unread : findTracked unreadable.tracked "D" = .error (.undecodable "status") := by
      decide +kernel
    have untracked : findTracked unreadable.tracked "U" = .ok none := by decide +kernel
    have begun : Activity.Run steady (fun _ => False) (handleEvents fromGenesis twoMigrations
      (twoMigrations.transfers fromGenesis.contract)) unreadable _ _ := .begin
    have failed := begun.answer (show steady (.storage (.tracked "D")) unreadable _ unreadable
      from ⟨trivial, congrArg (·, unreadable) unread⟩)
    have begun : Activity.Run steady (fun _ => False) (handleEvents fromGenesis
      (twoMigrations.only "U") ((twoMigrations.only "U").transfers fromGenesis.contract))
      unreadable _ _ := .begin
    have looked := begun.answer (show steady (.storage (.tracked "U")) unreadable _ unreadable
      from ⟨trivial, congrArg (·, unreadable) untracked⟩)
    have absent := looked.answer (show steady (.storage (.migration "U")) unreadable (.ok none)
      unreadable from ⟨trivial, rfl⟩)
    have confirmed := absent.answer (show steady (.transaction "U") unreadable
      (.ok (some ⟨"U", 1, 0, ""⟩)) unreadable from ⟨rfl, rfl⟩)
    have stamped := confirmed.answer (show steady .stamp unreadable zeroStamp unreadable from rfl)
    have inserted := stamped.answer (show steady (.storage (.addMigration oneMigrated)) unreadable
      (.ok true) { unreadable with migrations := [oneMigrated.row] } from ⟨nofun, rfl⟩)
    refine ⟨_, _, _, failed, inserted, fun same => ?_⟩
    have migrations := congrArg Store.Rows.migration same
    exact absurd migrations (by decide +kernel)
  · let tracked : Store.Tracked := ⟨⟨List.replicate 31 0 ++ [10], rfl⟩, "A", .mint, .pending, none,
      zeroStamp.time, zeroStamp.time⟩
    let rows : List TrackedRow := [
      awaited "00000000-0000-0000-0000-00000000000A" "A" "PENDING",
      awaited "00000000-0000-0000-0000-00000000000a" "B" "COMPLETE"]
    have found : findTracked sharedId.tracked "A" = .ok (some tracked) := by decide +kernel
    have settled : Store.settle sharedId.tracked "A" .complete none zeroStamp.time = .ok rows := by
      decide +kernel
    have begun : Activity.Run steady (fun _ => False) (handleEvents fromGenesis oneMint
      (oneMint.transfers fromGenesis.contract)) sharedId _ _ := .begin
    have looked := begun.answer (show steady (.storage (.tracked "A")) sharedId _ sharedId
      from ⟨trivial, congrArg (·, sharedId) found⟩)
    have confirmed := looked.answer (show steady (.transaction "A") sharedId
      (.ok (some ⟨"A", 1, 0, ""⟩)) sharedId from ⟨rfl, rfl⟩)
    have stamped := confirmed.answer (show steady .stamp sharedId zeroStamp sharedId from rfl)
    have written := stamped.answer (show steady (.storage (.settle "A" .complete none
      zeroStamp.time)) sharedId (.ok ()) { sharedId with tracked := rows } from
        ⟨trivial, by simp only [Store.Statement.run, settled]⟩)
    refine ⟨_, written, .begin, fun same => ?_⟩
    have statuses := congrArg Store.Rows.tracked same
    exact absurd statuses (by decide +kernel)

end Consumer

end Settlement
