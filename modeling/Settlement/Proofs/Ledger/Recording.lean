import Settlement.Proofs.Consumer.Convergence
import Settlement.Proofs.Consumer.Events

/-!
What the recording of a block does among others that use the same tables. The directory stays
the same, so everybody that records the block enters the same rows, and `Recorded` holds for
good after it has been done.
-/

namespace Settlement

def Directory.answer? (rows : List Store.RegistrationRow) :
    (request : Request) → Option request.Reply
  | .storage (.registration address) => some (Store.latestRegistration rows address)
  | _ => none

namespace Consumer

open Activity
open Store (Lasts Identified)

def admission (settings : Settings) (batch : Chain.Batch) :
    Activity Store.Fault (List Ledger.Admitted) :=
  Ledger.admitBlock settings.ledger Directory.resolve (batch.mints settings.contract)
    (batch.transfers settings.contract) batch.markerTransfers

section Recorded

variable (settings : Settings) (history : History) (batch : Chain.Batch)

def entries? (rows : List Store.RegistrationRow) : Option (List Store.Entry) :=
  match (admission settings batch).run (Directory.answer? rows) with
  | some (.ok admitted) => some (Ledger.entriesFrom (history.block batch.height).time 0 admitted)
  | _ => none

/-- All movements of the block are in the ledger. -/
def Recorded (store : Store) : Prop :=
  ∃ entries, entries? settings history batch store.registrations = some entries ∧
    ∀ entry ∈ entries, entry.fact?.isSome = true ∧ entry.key ∈ store.movements.map (·.key)

/-- What the tables have against the recording of a block. -/
def Unrecordable (store : Store) : Prop :=
  ∀ entries, entries? settings history batch store.registrations = some entries →
    ∃ entry ∈ entries, entry.fact? = none

inductive Entered (start : Store) : Request → Store → Store → Prop where
  | times {store : Store} : Entered start .times store store
  | header {height : Nat} {store : Store} : Entered start (.block height) store store
  | resolve {address : String} {store : Store} :
      Entered start (.storage (.registration address)) store store
  | append {entries : List Store.Entry} {now : Nat → Timestamp} {before after : Store}
      (made : entries? settings history batch start.registrations = some entries)
      (ran : Store.Statement.Ran (.append entries now) before after) :
      Entered start (.storage (.append entries now)) before after

end Recorded

section Block

variable {settings : Settings} {history : History} {answers : Answering Store}
  {elsewhere : Store → Store → Prop} {γ : Type} {disturbed : Prop} {batch : Chain.Batch}

theorem Recorded.lasts {before after : Store} (recorded : Recorded settings history batch before)
    (lasts : Lasts before after) : Recorded settings history batch after := by
  obtain ⟨entries, made, written⟩ := recorded
  refine ⟨entries, by rw [lasts.registrations]; exact made, fun entry member => ?_⟩
  obtain ⟨fits, present⟩ := written entry member
  exact ⟨fits, lasts.movements _ present⟩

theorem Recorded.not_unrecordable {store other : Store}
    (recorded : Recorded settings history batch store)
    (same : other.registrations = store.registrations) :
    ¬ Unrecordable settings history batch other := by
  intro unrecordable
  obtain ⟨entries, made, written⟩ := recorded
  obtain ⟨entry, member, misfit⟩ := unrecordable entries (by rw [same]; exact made)
  have fits := (written entry member).1
  rw [misfit] at fits
  cases fits

theorem entries?_some {store : Store} {entries : List Store.Entry}
    (made : entries? settings history batch store.registrations = some entries) :
    entries = (Intake.ofStore settings history store).entries batch := by
  let intake := Intake.ofStore settings history store
  have keeps : (admission settings batch).Keeps history.answers (fun _ _ => True)
      (Told True (intake.admitted batch) store) store :=
    (resolves_directory (intake.conduct_answers 0) store trivial ⟨rfl, rfl⟩ trivial).admitBlock
      _ _ _ _
  have among : ∀ request reply, Directory.answer? store.registrations request = some reply →
      history.answers request store reply store := by
    intro request reply told
    unfold Directory.answer? at told
    split at told
    · cases told
      exact .inl ⟨trivial, rfl⟩
    · cases told
  unfold entries? at made
  split at made
  · rename_i admitted ran
    cases made
    rw [(keeps.of_run among ran).2]
    rfl
  · cases made

theorem entries?_of_run {rows : List Store.RegistrationRow}
    {result : Except Store.Fault (List Ledger.Admitted)}
    (ran : (admission settings batch).run (Directory.answer? rows) = some result) :
    entries? settings history batch rows =
      result.toOption.map (Ledger.entriesFrom (history.block batch.height).time 0) := by
  rw [entries?, ran]
  cases result <;> rfl

theorem Entered.lasts {start before after : Store} {request : Request}
    (entered : Entered settings history batch start request before after)
    (identified : Identified before.tracked) : Lasts before after := by
  cases entered with
  | times | header | resolve => exact .refl _
  | append _ ran => exact ran.lasts identified

variable (manners : Manners history answers disturbed)
  {pact : Pact (World.shared γ answers elsewhere)}
  (lasts : ∀ {before after}, Identified before.tracked → pact.others before after →
    Lasts before after)
  {start : Store} (identified : Identified start.tracked)
  (allows : ∀ request before after, pact.others start before →
    Entered settings history batch start request before after →
    pact.own request before after)

include manners lasts identified allows

theorem abides_consults {ε α : Type} {activity : Activity ε α} (consults : activity.Consults)
    {state : Store} (since : pact.others start state) (memory : γ) :
    activity.Abides pact (fun _ result store => pact.others start store ∧
      match result with
      | .ok value => activity.run (Directory.answer? start.registrations) = some (.ok value)
      | .error failure => disturbed ∨
          activity.run (Directory.answer? start.registrations) = some (.error failure))
      memory state := by
  induction activity generalizing state with
  | done result =>
      intro between passed
      refine ⟨pact.trans since passed, ?_⟩
      cases result with
      | ok value => rfl
      | error failure => exact .inr rfl
  | ask request next ih =>
      obtain ⟨address, rfl⟩ := consults.ask
      obtain ⟨fails, goesOn⟩ := consults
      intro _ passed reply asked answered
      obtain ⟨rfl, told⟩ := manners.read rfl answered
      have sinceAsked := pact.trans since passed
      constructor
      · exact allows _ _ _ sinceAsked .resolve
      have directory := (lasts identified sinceAsked).registrations
      have same : ∀ reply, (Store.latestRegistration asked.registrations address) = reply →
          Activity.run (Directory.answer? start.registrations)
            (.ask (.storage (.registration address)) next) =
              (next reply).run (Directory.answer? start.registrations) := by
        rintro reply rfl
        simp only [Activity.run, Directory.answer?, directory]
        rfl
      cases reply with
      | error fault =>
          obtain ⟨failure, ended⟩ := fails fault
          rw [ended]
          intro between further
          refine ⟨pact.trans sinceAsked further, ?_⟩
          rcases told with cause | failed
          · exact .inl cause
          · rw [same _ failed, ended]
            exact .inr rfl
      | ok found =>
          rw [same _ told]
          exact ih (.ok found) (goesOn found) sinceAsked

theorem abides_append {entries : List Store.Entry}
    (made : entries? settings history batch start.registrations = some entries)
    (now : Nat → Timestamp) {state : Store} (since : pact.others start state) (memory : γ) :
    (Activity.storage Ledger.ofStorage (.append entries now)).Abides pact (fun _ result store =>
      match result with
      | .ok (some count) => pact.others start store ∧ Recorded settings history batch store ∧
          (Recorded settings history batch start → count = 0)
      | .ok none => Unrecordable settings history batch start
      | .error _ => disturbed) memory state := by
  intro between passed reply after written
  have sinceBetween := pact.trans since passed
  have here := lasts identified sinceBetween
  have known := identified.lasts here
  have allowed : pact.own (.storage (.append entries now)) between after :=
    allows _ _ _ sinceBetween (.append made (manners.ran written))
  have sinceAfter := pact.trans sinceBetween (pact.own_others allowed)
  constructor
  · exact allowed
  cases reply with
  | error fault =>
      exact fun _ _ => manners.fails written (Store.succeeds_append entries now between)
  | ok value =>
      obtain ⟨_, wrote⟩ := manners.wrote written
      have step := Store.Statement.lasts (.append entries now) known
      rw [wrote] at step
      cases appended : Store.appendEntries now entries between.movements with
      | none =>
          simp only [Store.Statement.run, appended] at wrote
          cases wrote
          intro _ _ other same
          obtain rfl : entries = other := Option.some.inj (made.symm.trans same)
          exact Store.appendEntries_none appended
      | some grown =>
          simp only [Store.Statement.run, appended] at wrote
          cases wrote
          -- Whatever was new, all entries are there by now and stay there.
          obtain ⟨_, _, _, _, _, present⟩ := Store.appendEntries_added appended
          have entered : Recorded settings history batch { between with movements := grown.2 } :=
            ⟨entries, by rw [← made, ← here.registrations], present⟩
          intro final further
          refine ⟨pact.trans sinceAfter further,
            entered.lasts (lasts (known.lasts step) further), fun before => ?_⟩
          obtain ⟨others, same, taken⟩ := before.lasts here
          rw [here.registrations, made] at same
          cases same
          have nothing := Store.appendEntries_taken now taken
          rw [appended] at nothing
          cases nothing
          rfl

theorem abides_admission (memory : γ) :
    ((admission settings batch).mapFailure Ledger.ofStorage).Abides pact
      (fun _ result store => pact.others start store ∧
        match result with
        | .ok admitted => entries? settings history batch start.registrations =
            some (Ledger.entriesFrom (history.block batch.height).time 0 admitted)
        | .error _ => disturbed ∨ Unrecordable settings history batch start) memory start := by
  -- The entries are fixed by what the directory says at the start.
  have admits := abides_consults manners lasts identified allows
    (consults_admitBlock settings.ledger (batch.mints settings.contract)
      (batch.transfers settings.contract) batch.markerTransfers) (pact.refl start) memory
  apply Abides.mapFailure
  apply admits.mono
  rintro memory result store ⟨since, ran⟩
  refine ⟨since, ?_⟩
  cases result with
  | ok admitted => exact entries?_of_run ran
  | error fault =>
      refine ran.imp_right fun ran => ?_
      rintro entries made
      cases (entries?_of_run ran).symm.trans made

theorem abides_entering {admitted : List Ledger.Admitted}
    (made : entries? settings history batch start.registrations =
      some (Ledger.entriesFrom (history.block batch.height).time 0 admitted))
    {state : Store} (since : pact.others start state) (memory : γ) :
    Abides pact (fun _ result store => match result with
      | .ok count => Recorded settings history batch store ∧
          (Recorded settings history batch start → count = 0)
      | .error _ => disturbed ∨ Unrecordable settings history batch start)
      (do
        let header ← Ledger.fetchBlock batch.height
        let now ← Activity.request .times
        let written ← Activity.storage Ledger.ofStorage
          (.append (Ledger.entriesFrom header.time 0 admitted) now)
        match written with
        | some count => return count
        | none => .fail (.ofCause .heightRange)) memory state := by
  intro _ toAsked reply asked answered
  obtain ⟨rfl, told⟩ := manners.within answered
  have sinceAsked := pact.trans since toAsked
  constructor
  · exact allows _ _ _ sinceAsked .header
  cases reply with
  | error failure =>
      intro _ _
      exact .inl (manners.block answered)
  | ok header =>
      obtain rfl : header = history.block batch.height := by simpa using told
      intro _ toTimed now timed marked
      obtain rfl := manners.within marked
      have sinceTimed := pact.trans sinceAsked toTimed
      constructor
      · exact allows _ _ _ sinceTimed .times
      refine (abides_append manners lasts identified allows made now sinceTimed memory).bind
        ?_ ?_
      · rintro memory written store ended
        cases written with
        | none => exact fun _ _ => .inr ended
        | some count =>
            intro between passed
            obtain ⟨since, entered, unmoved⟩ := ended
            have known := identified.lasts (lasts identified since)
            exact ⟨entered.lasts (lasts known passed), unmoved⟩
      · rintro memory failure store cause
        exact .inl cause

theorem abides_recordBlock (memory : γ) :
    (recordBlock settings batch.height batch).Abides pact (fun _ result store =>
      match result with
      | .ok count => Recorded settings history batch store ∧
          (Recorded settings history batch start → count = 0)
      | .error _ => disturbed ∨ Unrecordable settings history batch start) memory start := by
  refine (abides_admission manners lasts identified allows memory).bind ?_ ?_
  · rintro memory admitted store ⟨since, made⟩
    by_cases empty : admitted.isEmpty = true
    · rw [if_pos empty]
      rw [List.isEmpty_iff] at empty
      subst empty
      intro between passed
      have kept := lasts identified (pact.trans since passed)
      exact ⟨⟨[], by rw [kept.registrations]; exact made, by simp⟩, fun _ => rfl⟩
    · rw [if_neg empty]
      exact abides_entering manners lasts identified allows made since memory
  · rintro memory failure store ⟨_, cause⟩
    exact cause

end Block

end Consumer

end Settlement
