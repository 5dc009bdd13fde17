import Mathlib.Logic.Relation
import Settlement.Proofs.Consumer.Questions
import Settlement.Proofs.Ledger.Offering

/-!
The recording of a block call by call. The entries are written row by row within one transaction,
whose rows nobody else sees before it is committed, and each call may fail, a height may turn out
not to fit and the process may die at any point. The ledger that everybody sees is changed by one
call at most, and that call is the commit, which brings all rows at once.
-/

namespace Settlement.Ledger

open Activity
open Store (MovementRow Entry)

/-- The calls that write the entries of a block. -/
inductive Session where
  | done (reply : Except Store.Fault (Option Nat))
  | begin (next : Except Store.Fault Unit → Session)
  | insert (row : MovementRow) (next : Except Store.Fault Bool → Session)
  | commit (next : Except Store.Fault Unit → Session)

namespace Session

def orFail {α : Type} (next : α → Session) : Except Store.Fault α → Session
  | .ok value => next value
  | .error fault => .done (.error fault)

/-- Inserts one entry after the other. A height that does not fit ends it on the spot. -/
def inserting (now : Nat → Timestamp) : List Entry → Nat → Session
  | [], count => .commit (orFail fun _ => .done (.ok (some count)))
  | entry :: rest, count =>
    match entry.movement? with
    | none => .done (.ok none)
    | some movement => .insert (movement.row (now 0)) (orFail fun added =>
        inserting (fun index => now (index + 1)) rest (if added then count + 1 else count))

def writing (entries : List Entry) (now : Nat → Timestamp) : Session :=
  .begin (orFail fun _ => inserting now entries 0)

def failed (fault : Store.Fault) : Session → Session
  | .done reply => .done reply
  | .begin next => next (.error fault)
  | .insert _ next => next (.error fault)
  | .commit next => next (.error fault)

end Session

inductive Connection where
  | free
  | begun
  /-- In a transaction with the ledger as it has made it. Nobody else can write meanwhile. -/
  | locked (rows : List MovementRow)

inductive Phase where
  | asking (rest : Activity Failure Nat)
  | writing (session : Session) (next : Except Store.Fault (Option Nat) → Activity Failure Nat)
  | dead

/-- Rows of the ledger before and after a change. -/
abbrev Change := List MovementRow × List MovementRow

structure Recording where
  phase : Phase
  store : Store
  connection : Connection
  changes : List Change

/-- The ledger as the connection sees it. -/
def Connection.rows (store : Store) : Connection → List MovementRow
  | .locked rows => rows
  | _ => store.movements

def SparesLedger : Request → Prop
  | .storage (.append ..) => False
  | _ => True

namespace Recording

def start (program : Activity Failure Nat) (store : Store) : Recording :=
  ⟨.asking program, store, .free, []⟩

def changesAfter (recording : Recording) (after : Store) : List Change :=
  if after.movements = recording.store.movements then recording.changes
  else (recording.store.movements, after.movements) :: recording.changes

def wrote (recording : Recording) (after : Store) : Recording :=
  { recording with store := after, changes := recording.changesAfter after }

/-- The ledger becomes this one, for itself in a transaction and otherwise for everybody. -/
def put (recording : Recording) (rows : List MovementRow) : Recording :=
  match recording.connection with
  | .free => recording.wrote { recording.store with movements := rows }
  | _ => { recording with connection := .locked rows }

def commit (recording : Recording) : Recording :=
  { recording.wrote { recording.store with
      movements := recording.connection.rows recording.store } with
    connection := .free }

def Answered : Answering Store
  | .storage statement, before, reply, after =>
      (reply, after) = statement.run before ∨
        (∃ fault, reply = .error fault) ∧ (after = before ∨ after = (statement.run before).2)
  | _, before, _, after => after = before

/-- One call of the recording, its death, or a change that others make. -/
inductive Step (elsewhere : Store → Store → Prop) : Recording → Recording → Prop where
  | answer {before : Recording} {request : Request} {next : request.Reply → Activity Failure Nat}
      {reply : request.Reply} {after : Store}
      (asks : before.phase = .asking (.ask request next)) (spares : SparesLedger request)
      (answered : Answered request before.store reply after) :
      Step elsewhere before { before.wrote after with phase := .asking (next reply) }
  | enter {before : Recording} {entries : List Entry} {now : Nat → Timestamp}
      {next : Except Store.Fault (Option Nat) → Activity Failure Nat}
      (asks : before.phase = .asking (.ask (.storage (.append entries now)) next)) :
      Step elsewhere before { before with phase := .writing (.writing entries now) next }
  | begin {before : Recording} {session : Except Store.Fault Unit → Session}
      {next : Except Store.Fault (Option Nat) → Activity Failure Nat}
      (calls : before.phase = .writing (.begin session) next) :
      Step elsewhere before
        { before with phase := .writing (session (.ok ())) next, connection := .begun }
  | insert {before : Recording} {row : MovementRow} {session : Except Store.Fault Bool → Session}
      {next : Except Store.Fault (Option Nat) → Activity Failure Nat}
      {added : Option (List MovementRow)}
      (calls : before.phase = .writing (.insert row session) next)
      (inserted : Store.addMovement (before.connection.rows before.store) row = added) :
      Step elsewhere before
        { before.put (added.getD (before.connection.rows before.store)) with
          phase := .writing (session (.ok added.isSome)) next }
  | commit {before : Recording} {session : Except Store.Fault Unit → Session}
      {next : Except Store.Fault (Option Nat) → Activity Failure Nat}
      (calls : before.phase = .writing (.commit session) next) :
      Step elsewhere before { before.commit with phase := .writing (session (.ok ())) next }
  /-- A call that fails has no effect, or it ends the transaction without any. -/
  | fail {before : Recording} {session : Session} {fault : Store.Fault} {connection : Connection}
      {next : Except Store.Fault (Option Nat) → Activity Failure Nat}
      (calls : before.phase = .writing session next)
      (left : connection = before.connection ∨ connection = .free) :
      Step elsewhere before
        { before with phase := .writing (session.failed fault) next, connection }
  /-- A transaction that is still open is rolled back. -/
  | leave {before : Recording} {reply : Except Store.Fault (Option Nat)}
      {next : Except Store.Fault (Option Nat) → Activity Failure Nat}
      (ended : before.phase = .writing (.done reply) next) :
      Step elsewhere before { before with phase := .asking (next reply), connection := .free }
  | die {before : Recording} :
      Step elsewhere before { before with phase := .dead, connection := .free }
  | elsewhere {before : Recording} {after : Store}
      (unlocked : ∀ rows, before.connection ≠ .locked rows)
      (moved : elsewhere before.store after) :
      Step elsewhere before { before with store := after }

abbrev Steps (elsewhere : Store → Store → Prop) : Recording → Recording → Prop :=
  Relation.ReflTransGen (Step elsewhere)

end Recording

section Programs

def MayReturn {ε α : Type} (value : α) : Activity ε α → Prop
  | .done result => result = .ok value
  | .ask _ next => ∃ reply, MayReturn value (next reply)

theorem MayReturn.of_mapFailure {ε δ α : Type} {view : ε → δ} {value : α}
    {activity : Activity ε α} (returns : MayReturn value (activity.mapFailure view)) :
    MayReturn value activity := by
  induction activity with
  | done result =>
      cases result <;> cases returns
      rfl
  | ask request next ih =>
      obtain ⟨reply, returns⟩ := returns
      exact ⟨reply, ih reply returns⟩

variable (admits : List Admitted → Prop)

/-- The changes of the ledger fit the outcome: none if there is no count, and otherwise one that
appends all rows with a free key at once, as many as the count says. -/
def Accounts : Option Nat → List Change → Prop
  | none, changes => changes = []
  | some count, changes => changes = [] ∧ count = 0 ∨
      ∃ before time now admitted, admits admitted ∧
        let added := (offered time now 0 admitted).filter fun row => row.key ∉ before.map (·.key)
        changes = [(before, before ++ added)] ∧ count = added.length

def Tells (next : Except Store.Fault (Option Nat) → Activity Failure Nat) : Prop :=
  ∀ reply, ∃ result, next reply = .done result ∧ result.toOption = reply.toOption.join

def FromAdmitted (entries : List Entry) : Prop :=
  ∃ time admitted, admits admitted ∧ entries = entriesFrom time 0 admitted

/-- It writes to the ledger once at most, by the last question that it asks. -/
def WritesOnce : Activity Failure Nat → Prop
  | .done result => Accounts admits result.toOption []
  | .ask (.storage (.append entries _)) next => FromAdmitted admits entries ∧ Tells next
  | .ask _ next => ∀ reply, WritesOnce (next reply)

variable {admits}

theorem writesOnce_ask {request : Request} {next : request.Reply → Activity Failure Nat}
    (spares : SparesLedger request) :
    WritesOnce admits (.ask request next) ↔ ∀ reply, WritesOnce admits (next reply) := by
  cases request with
  | storage statement =>
      cases statement with
      | append entries now => exact spares.elim
      | _ => exact Iff.rfl
  | _ => exact Iff.rfl

theorem WritesOnce.bind {α : Type} {first : Activity Failure α} {next : α → Activity Failure Nat}
    (asks : first.Asks SparesLedger)
    (rest : ∀ value, MayReturn value first → WritesOnce admits (next value)) :
    WritesOnce admits (first >>= next) := by
  change WritesOnce admits (first.bind next)
  induction first with
  | done result =>
      cases result with
      | ok value => exact rest value rfl
      | error failure => exact (rfl : Accounts admits none [])
  | ask request answer ih =>
      rw [Activity.bind, writesOnce_ask asks.1]
      intro reply
      exact ih reply (asks.2 reply) fun value returns => rest value ⟨reply, returns⟩

theorem asks_fetchBlock (height : Nat) : (fetchBlock height).Asks SparesLedger := by
  refine ⟨trivial, fun reply => ?_⟩
  cases reply <;> trivial

theorem writesOnce_recordBlock {settings : Settings} {resolve : Resolve}
    (directory : ∀ address, (resolve address).Asks SparesLedger) (height : Nat)
    (mints : List Chain.Mint) (burns : List Chain.Transfer)
    (transfers : List Chain.MarkerTransfer) :
    WritesOnce
      (fun admitted => MayReturn admitted (admitBlock settings resolve mints burns transfers))
      (recordBlock settings resolve height mints burns transfers) := by
  have admission : (admitBlock settings resolve mints burns transfers).Asks SparesLedger :=
    Consumer.admitBlock_holds (fun activity => activity.Asks SparesLedger) (fun _ => trivial)
      .bind directory settings mints burns transfers
  refine WritesOnce.bind (admission.mapFailure ofStorage) fun admitted returns => ?_
  split
  · exact Or.inl ⟨rfl, rfl⟩
  · refine WritesOnce.bind (asks_fetchBlock height) fun header _ => ?_
    refine WritesOnce.bind ⟨trivial, fun _ => trivial⟩ fun stamp _ => ?_
    refine ⟨⟨header.time, admitted, returns.of_mapFailure, rfl⟩, ?_⟩
    rintro (fault | _ | count)
    · exact ⟨.error (ofStorage fault), rfl, rfl⟩
    · exact ⟨.error (.ofCause .heightRange), rfl, rfl⟩
    · exact ⟨.ok count, rfl, rfl⟩

end Programs

section Stages

/-- What the session has done so far: the rows of its transaction are those that it would have
inserted in the ledger that everybody sees. -/
def Inserted (now : Nat → Timestamp) (entries : List Entry) (left : Nat → Timestamp)
    (rest : List Entry) (count : Nat) (store : Store) : Connection → Prop
  | .free => False
  | .begun => left = now ∧ rest = entries ∧ count = 0
  | .locked rows => Store.appendEntries now entries store.movements =
      (Store.appendEntries left rest rows).map fun grown => (count + grown.1, grown.2)

inductive Stage (admits : List Admitted → Prop) : Recording → Prop where
  | asking {rest : Activity Failure Nat} {store : Store} (once : WritesOnce admits rest) :
      Stage admits ⟨.asking rest, store, .free, []⟩
  | entering {entries : List Entry} {now : Nat → Timestamp} {store : Store}
      {next : Except Store.Fault (Option Nat) → Activity Failure Nat}
      (made : FromAdmitted admits entries) (tells : Tells next) :
      Stage admits ⟨.writing (.writing entries now) next, store, .free, []⟩
  | inserting {entries rest : List Entry} {now left : Nat → Timestamp} {count : Nat}
      {store : Store} {connection : Connection}
      {next : Except Store.Fault (Option Nat) → Activity Failure Nat}
      (made : FromAdmitted admits entries) (tells : Tells next)
      (inserted : Inserted now entries left rest count store connection) :
      Stage admits ⟨.writing (.inserting left rest count) next, store, connection, []⟩
  | leaving {reply : Except Store.Fault (Option Nat)} {store : Store} {connection : Connection}
      {changes : List Change} {next : Except Store.Fault (Option Nat) → Activity Failure Nat}
      (tells : Tells next) (accounts : Accounts admits reply.toOption.join changes) :
      Stage admits ⟨.writing (.done reply) next, store, connection, changes⟩
  | ended {result : Except Failure Nat} {store : Store} {changes : List Change}
      (accounts : Accounts admits result.toOption changes) :
      Stage admits ⟨.asking (.done result), store, .free, changes⟩
  | dead {outcome : Option Nat} {store : Store} {changes : List Change}
      (accounts : Accounts admits outcome changes) :
      Stage admits ⟨.dead, store, .free, changes⟩

variable {admits : List Admitted → Prop} {now left : Nat → Timestamp} {entries rest : List Entry}
  {count : Nat} {store : Store} {connection : Connection}

theorem Inserted.whole (inserted : Inserted now entries left rest count store connection) :
    Store.appendEntries now entries store.movements =
      (Store.appendEntries left rest (connection.rows store)).map fun grown =>
        (count + grown.1, grown.2) := by
  cases connection with
  | free => exact inserted.elim
  | begun =>
      obtain ⟨rfl, rfl, rfl⟩ := inserted
      cases appended : Store.appendEntries left rest store.movements <;>
        simp [Connection.rows, appended]
  | locked rows => exact inserted

theorem Inserted.cons {entry : Entry} {movement : Store.Movement}
    {added : Option (List MovementRow)} (fits : entry.movement? = some movement)
    (made : Store.addMovement (connection.rows store) (movement.row (left 0)) = added)
    (inserted : Inserted now entries left (entry :: rest) count store connection) :
    Inserted now entries (fun index => left (index + 1)) rest
      (if added.isSome then count + 1 else count) store (.locked (added.getD (connection.rows store))) := by
  have whole := inserted.whole
  simp only [Store.appendEntries, fits, Option.bind_eq_bind, Option.bind_some] at whole
  cases added with
  | none => simpa [made, Inserted] using whole
  | some rows =>
      simpa [made, Inserted, Function.comp_def, Nat.add_assoc, Nat.add_comm 1] using whole

theorem Inserted.accounts (made : FromAdmitted admits entries)
    (inserted : Inserted now entries left [] count store connection) :
    Accounts admits (some count) (Recording.changesAfter ⟨.dead, store, connection, []⟩
      { store with movements := connection.rows store }) := by
  obtain ⟨time, admitted, known, rfl⟩ := made
  have appended : Store.appendEntries now (entriesFrom time 0 admitted) store.movements =
      some (count, connection.rows store) := inserted.whole
  obtain ⟨rows, counted⟩ := appendEntries_offered appended
  -- If every key was taken, the commit brings nothing and is no change.
  by_cases same : connection.rows store = store.movements
  · left
    have nothing := List.append_right_eq_self.mp (rows.symm.trans same)
    exact ⟨if_pos same, by rw [counted, nothing, List.length_nil]⟩
  · right
    refine ⟨store.movements, time, now, admitted, known, ?_, counted⟩
    rw [← rows]
    exact if_neg same

theorem Stage.accounts {recording : Recording} (stage : Stage admits recording) :
    ∃ outcome, Accounts admits outcome recording.changes := by
  cases stage with
  | asking | entering | inserting => exact ⟨none, rfl⟩
  | leaving _ accounts => exact ⟨_, accounts⟩
  | ended accounts => exact ⟨_, accounts⟩
  | dead accounts => exact ⟨_, accounts⟩

theorem statement_spares {statement : Store.Statement}
    (spares : SparesLedger (.storage statement)) :
    (statement.run store).2.movements = store.movements := by
  cases statement with
  | append entries now => exact spares.elim
  | settle txHash status message now =>
      simp only [Store.Statement.run]
      split <;> rfl
  | addDeposit deposit =>
      simp only [Store.Statement.run]
      split <;> rfl
  | addMigration migration =>
      simp only [Store.Statement.run]
      split <;> rfl
  | _ => rfl

theorem answered_spares {request : Request} {reply : request.Reply} {after : Store}
    (spares : SparesLedger request) (answered : Recording.Answered request store reply after) :
    after.movements = store.movements := by
  cases request with
  | storage statement =>
      rcases answered with ran | ⟨_, rfl | rfl⟩
      · obtain rfl := (Prod.ext_iff.mp ran).2
        exact statement_spares spares
      · rfl
      · exact statement_spares spares
  | _ => exact congrArg Store.movements answered

theorem inserting_insert {row : MovementRow} {session : Except Store.Fault Bool → Session}
    (calls : Session.inserting now rest count = .insert row session) :
    ∃ entry others movement, rest = entry :: others ∧ entry.movement? = some movement ∧
      row = movement.row (now 0) ∧ session = Session.orFail fun added =>
        .inserting (fun index => now (index + 1)) others (if added then count + 1 else count) := by
  cases rest with
  | nil => cases calls
  | cons entry others =>
      cases fits : entry.movement? with
      | none =>
          simp only [Session.inserting, fits] at calls
          cases calls
      | some movement =>
          simp only [Session.inserting, fits] at calls
          cases calls
          exact ⟨entry, others, movement, rfl, fits, rfl, rfl⟩

theorem inserting_commit {session : Except Store.Fault Unit → Session}
    (calls : Session.inserting now rest count = .commit session) :
    rest = [] ∧ session = Session.orFail fun _ => .done (.ok (some count)) := by
  cases rest with
  | nil =>
      cases calls
      exact ⟨rfl, rfl⟩
  | cons entry others =>
      simp only [Session.inserting] at calls
      split at calls <;> cases calls

theorem inserting_ne_begin (session : Except Store.Fault Unit → Session) :
    Session.inserting now rest count ≠ .begin session := by
  intro calls
  cases rest with
  | nil => cases calls
  | cons entry others =>
      simp only [Session.inserting] at calls
      split at calls <;> cases calls

theorem inserting_done {reply : Except Store.Fault (Option Nat)}
    (ended : Session.inserting now rest count = .done reply) : reply = .ok none := by
  cases rest with
  | nil => cases ended
  | cons entry others =>
      simp only [Session.inserting] at ended
      split at ended <;> cases ended
      rfl

theorem failed_inserting (fault : Store.Fault) :
    ∃ reply, (Session.inserting now rest count).failed fault = .done reply ∧
      reply.toOption.join = none := by
  cases rest with
  | nil => exact ⟨.error fault, rfl, rfl⟩
  | cons entry others =>
      simp only [Session.inserting]
      split
      · exact ⟨.ok none, rfl, rfl⟩
      · exact ⟨.error fault, rfl, rfl⟩

/-- Of all calls only the commit changes the ledger that everybody sees. -/
theorem Stage.step {elsewhere : Store → Store → Prop} {before after : Recording}
    (stage : Stage admits before) (step : Recording.Step elsewhere before after) :
    Stage admits after := by
  cases step with
  | @answer request next reply left asks spares answered =>
      cases stage with
      | asking once =>
          cases asks
          -- It has not come to the entries yet, so the answer leaves the ledger alone.
          have unchanged : Recording.changesAfter ⟨_, _, _, []⟩ left = [] :=
            if_pos (answered_spares spares answered)
          simp only [Recording.wrote, unchanged]
          exact .asking ((writesOnce_ask spares).mp once reply)
      | _ => cases asks
  | enter asks =>
      cases stage with
      | asking once =>
          cases asks
          exact .entering once.1 once.2
      | _ => cases asks
  | begin calls =>
      cases stage with
      | entering made tells =>
          cases calls
          exact .inserting made tells ⟨rfl, rfl, rfl⟩
      | inserting => exact (inserting_ne_begin _ (Phase.writing.inj calls).1).elim
      | _ => cases calls
  | insert calls inserted =>
      cases stage with
      | @inserting _ _ _ _ _ _ connection _ made tells done =>
          obtain ⟨same, rfl⟩ := Phase.writing.inj calls
          obtain ⟨entry, others, movement, rfl, fits, rfl, rfl⟩ := inserting_insert same
          have kept := done.cons fits inserted
          cases connection with
          | free => exact done.elim
          | begun => exact .inserting made tells kept
          | locked rows => exact .inserting made tells kept
      | _ => cases calls
  | commit calls =>
      cases stage with
      | inserting made tells done =>
          obtain ⟨same, rfl⟩ := Phase.writing.inj calls
          obtain ⟨rfl, rfl⟩ := inserting_commit same
          exact .leaving tells (done.accounts made)
      | _ => cases calls
  | @fail session fault connection next calls left =>
      cases stage with
      | entering made tells =>
          cases calls
          exact .leaving tells rfl
      | inserting made tells done =>
          obtain ⟨rfl, rfl⟩ := Phase.writing.inj calls
          obtain ⟨reply, ended, refused⟩ := failed_inserting fault
          rw [ended]
          exact .leaving tells (by rw [refused]; rfl)
      | leaving tells accounts =>
          cases calls
          exact .leaving tells accounts
      | _ => cases calls
  | @leave reply next ended =>
      have leaves : ∀ {store changes}, Tells next → Accounts admits reply.toOption.join changes →
          Stage admits ⟨.asking (next reply), store, .free, changes⟩ := by
        intro store changes tells accounts
        obtain ⟨result, told, outcome⟩ := tells reply
        rw [told]
        exact .ended (outcome ▸ accounts)
      cases stage with
      | inserting made tells done =>
          obtain ⟨same, rfl⟩ := Phase.writing.inj ended
          obtain rfl := inserting_done same
          exact leaves tells rfl
      | leaving tells accounts =>
          cases ended
          exact leaves tells accounts
      | _ => cases ended
  | die =>
      obtain ⟨outcome, accounts⟩ := stage.accounts
      exact .dead accounts
  | elsewhere unlocked moved =>
      cases stage with
      | asking once => exact .asking once
      | entering made tells => exact .entering made tells
      | @inserting _ _ _ _ _ _ connection _ made tells done =>
          -- Others write only before the first insertion, when there is nothing to keep up.
          cases connection with
          | free => exact done.elim
          | begun => exact .inserting made tells done
          | locked rows => exact (unlocked rows rfl).elim
      | leaving tells accounts => exact .leaving tells accounts
      | ended accounts => exact .ended accounts
      | dead accounts => exact .dead accounts

end Stages

section Runs

open Recording (Step Steps)

variable {elsewhere : Store → Store → Prop} {before after : Recording} {initial : List MovementRow}

def Replays (initial : List MovementRow) : List Change → List MovementRow → Prop
  | [], rows => rows = initial
  | (before, after) :: earlier, rows => rows = after ∧ Replays initial earlier before

theorem Replays.unique {changes : List Change} {rows other : List MovementRow}
    (replays : Replays initial changes rows) (others : Replays initial changes other) :
    rows = other := by
  cases changes with
  | nil => exact replays.trans others.symm
  | cons change earlier => exact replays.1.trans others.1.symm

theorem replays_changesAfter (store : Store)
    (replays : Replays initial before.changes before.store.movements) :
    Replays initial (before.changesAfter store) store.movements := by
  unfold Recording.changesAfter
  split
  · rename_i same
    rwa [same]
  · exact ⟨rfl, replays⟩

theorem suffix_changesAfter (store : Store) : before.changes <:+ before.changesAfter store := by
  unfold Recording.changesAfter
  split
  · exact List.suffix_rfl
  · exact List.suffix_cons _ _

theorem Recording.Step.suffix (step : Step elsewhere before after) :
    before.changes <:+ after.changes := by
  cases step with
  | answer _ _ _ => exact suffix_changesAfter _
  | insert _ _ =>
      simp only [Recording.put]
      split
      · exact suffix_changesAfter _
      · exact List.suffix_rfl
  | commit _ => exact suffix_changesAfter _
  | _ => exact List.suffix_rfl

theorem Recording.Step.replays
    (quiet : ∀ before after, elsewhere before after → after.movements = before.movements)
    (step : Step elsewhere before after)
    (replays : Replays initial before.changes before.store.movements) :
    Replays initial after.changes after.store.movements := by
  cases step with
  | answer _ _ _ => exact replays_changesAfter _ replays
  | insert _ _ =>
      simp only [Recording.put]
      split
      · exact replays_changesAfter _ replays
      · exact replays
  | commit _ => exact replays_changesAfter _ replays
  | elsewhere _ moved =>
      have same := quiet _ _ moved
      rwa [← same] at replays
  | _ => exact replays

theorem Recording.Steps.stage {admits : List Admitted → Prop} (steps : Steps elsewhere before after)
    (stage : Stage admits before) : Stage admits after := by
  induction steps with
  | refl => exact stage
  | tail _ step ih => exact ih.step step

theorem Recording.Steps.suffix (steps : Steps elsewhere before after) :
    before.changes <:+ after.changes := by
  induction steps with
  | refl => exact List.suffix_rfl
  | tail _ step ih => exact ih.trans step.suffix

theorem Recording.Steps.replays
    (quiet : ∀ before after, elsewhere before after → after.movements = before.movements)
    (steps : Steps elsewhere before after)
    (replays : Replays initial before.changes before.store.movements) :
    Replays initial after.changes after.store.movements := by
  induction steps with
  | refl => exact replays
  | tail _ step ih => exact step.replays quiet ih

theorem Accounts.length_le {admits : List Admitted → Prop} {outcome : Option Nat}
    {changes : List Change} (accounts : Accounts admits outcome changes) :
    changes.length ≤ 1 := by
  cases outcome with
  | none =>
      obtain rfl := accounts
      exact Nat.zero_le 1
  | some count =>
      rcases accounts with ⟨rfl, _⟩ | ⟨_, _, _, _, _, rfl, _⟩
      · exact Nat.zero_le 1
      · exact Nat.le_refl 1

theorem Stage.result {admits : List Admitted → Prop} {result : Except Failure Nat}
    (stage : Stage admits after) (ended : after.phase = .asking (.done result)) :
    Accounts admits result.toOption after.changes := by
  cases stage with
  | asking once =>
      cases ended
      exact once
  | ended accounts =>
      cases ended
      exact accounts
  | _ => cases ended

theorem list_of_movements {store other : Store} (same : store.movements = other.movements)
    (first last : Option Timestamp) (offset limit : Int) :
    ((Store.Statement.list first last offset limit).run store).1 =
      ((Store.Statement.list first last offset limit).run other).1 := by
  simp only [Store.Statement.run, same]

def settled (next : Except Store.Fault (Option Nat) → Activity Failure Nat) (store : Store)
    (count : Nat) (changes : List Change) : Option (Nat × List MovementRow) → Recording
  | some (more, rows) =>
      ⟨.asking (next (.ok (some (count + more)))), { store with movements := rows }, .free, changes⟩
  | none => ⟨.asking (next (.ok none)), store, .free, changes⟩

theorem settled_cons {next : Except Store.Fault (Option Nat) → Activity Failure Nat}
    {now : Nat → Timestamp} {store : Store} {changes : List Change} {entry : Entry}
    {rest : List Entry} {movement : Store.Movement} {count : Nat} {rows : List MovementRow}
    {added : Option (List MovementRow)} (fits : entry.movement? = some movement)
    (made : Store.addMovement rows (movement.row (now 0)) = added) :
    settled next store count changes (Store.appendEntries now (entry :: rest) rows) =
      settled next store (if added.isSome then count + 1 else count) changes
        (Store.appendEntries (fun index => now (index + 1)) rest (added.getD rows)) := by
  simp only [Store.appendEntries, fits, Option.bind_eq_bind, Option.bind_some, made]
  cases added with
  | none => rfl
  | some rows =>
      cases appended : Store.appendEntries (fun index => now (index + 1)) rest rows with
      | none => simp [appended, settled]
      | some grown => simp [appended, settled, Nat.add_assoc, Nat.add_comm 1]

theorem steps_inserting {next : Except Store.Fault (Option Nat) → Activity Failure Nat}
    {now : Nat → Timestamp} {store : Store} {connection : Connection} {changes : List Change}
    (rest : List Entry) (count : Nat) (busy : connection ≠ .free) :
    ∃ later, Steps elsewhere
      ⟨.writing (.inserting now rest count) next, store, connection, changes⟩
      (settled next store count later
        (Store.appendEntries now rest (connection.rows store))) := by
  -- What is carried along are the rows of the transaction, which nobody else sees.
  induction rest generalizing now connection count with
  | nil =>
      let before : Recording :=
        ⟨.writing (.inserting now [] count) next, store, connection, changes⟩
      have committed : Step elsewhere before
          { before.commit with phase := .writing (.done (.ok (some count))) next } :=
        @Step.commit _ before (Session.orFail fun _ => .done (.ok (some count))) next rfl
      exact ⟨_, (Relation.ReflTransGen.single committed).tail (.leave rfl)⟩
  | cons entry rest ih =>
      cases fits : entry.movement? with
      | none =>
          have ended : Session.inserting now (entry :: rest) count = .done (.ok none) := by
            simp only [Session.inserting, fits]
          refine ⟨changes, ?_⟩
          simp only [Store.appendEntries, fits, ended]
          exact .single (.leave rfl)
      | some movement =>
          have calls : Session.inserting now (entry :: rest) count =
              .insert (movement.row (now 0)) (Session.orFail fun added =>
                .inserting (fun index => now (index + 1)) rest
                  (if added then count + 1 else count)) := by
            simp only [Session.inserting, fits]
          let added := Store.addMovement (connection.rows store) (movement.row (now 0))
          let locked := Connection.locked (added.getD (connection.rows store))
          obtain ⟨later, settles⟩ := ih (if added.isSome then count + 1 else count)
            (show locked ≠ .free by simp [locked])
          have inserted : Step elsewhere
              ⟨.writing (.inserting now (entry :: rest) count) next, store, connection, changes⟩
              ⟨.writing (.inserting (fun index => now (index + 1)) rest
                (if added.isSome then count + 1 else count)) next, store, locked, changes⟩ := by
            rw [calls]
            cases connection with
            | free => exact (busy rfl).elim
            | begun => exact @Step.insert _ ⟨_, _, .begun, _⟩ _ (Session.orFail _) next _ rfl rfl
            | locked rows =>
                exact @Step.insert _ ⟨_, _, .locked rows, _⟩ _ (Session.orFail _) next _ rfl rfl
          exact ⟨later, .head inserted (settled_cons fits rfl ▸ settles)⟩

/-- If no call fails, the session does what the statement does. -/
theorem steps_append {entries : List Entry} {now : Nat → Timestamp} {store after : Store}
    {reply : Except Store.Fault (Option Nat)} {changes : List Change}
    (ran : (Store.Statement.append entries now).run store = (reply, after))
    (next : Except Store.Fault (Option Nat) → Activity Failure Nat) :
    ∃ later, Steps elsewhere
      ⟨.asking (.ask (.storage (.append entries now)) next), store, .free, changes⟩
      ⟨.asking (next reply), after, .free, later⟩ := by
  have entered : Step elsewhere
      ⟨.asking (.ask (.storage (.append entries now)) next), store, .free, changes⟩
      ⟨.writing (.writing entries now) next, store, .free, changes⟩ := .enter rfl
  have begun : Step elsewhere ⟨.writing (.writing entries now) next, store, .free, changes⟩
      ⟨.writing (.inserting now entries 0) next, store, .begun, changes⟩ :=
    @Step.begin _ ⟨.writing (.writing entries now) next, store, .free, changes⟩
      (Session.orFail fun _ => .inserting now entries 0) next rfl
  have opened : Connection.begun ≠ .free := nofun
  obtain ⟨later, settles⟩ : ∃ later, Steps elsewhere
      ⟨.writing (.inserting now entries 0) next, store, .begun, changes⟩
      (settled next store 0 later (Store.appendEntries now entries store.movements)) :=
    steps_inserting entries 0 opened
  refine ⟨later, .head entered (.head begun ?_)⟩
  simp only [Store.Statement.run] at ran
  cases appended : Store.appendEntries now entries store.movements with
  | none =>
      simp only [appended] at ran settles
      cases ran
      exact settles
  | some grown =>
      simp only [appended, settled, Nat.zero_add] at ran settles
      cases ran
      exact settles

/-- A recording that fails has changed nothing in the ledger, at whichever call it failed. One that
succeeds has changed it once at most and then brought all its rows at once, so at any point before
its end everybody sees either none of the change or all of it. If others leave the ledger alone,
it is the same as before after a failure, and a listing is at all times the one from before or the
one from after. -/
theorem recording_is_all_or_nothing {settings : Settings} {resolve : Resolve} {height : Nat}
    {mints : List Chain.Mint} {burns : List Chain.Transfer}
    {transfers : List Chain.MarkerTransfer} {store : Store} {middle final : Recording}
    (directory : ∀ address, (resolve address).Asks SparesLedger)
    (first : Steps elsewhere
      (.start (recordBlock settings resolve height mints burns transfers) store) middle)
    (rest : Steps elsewhere middle final) :
    let admits := fun admitted =>
      MayReturn admitted (admitBlock settings resolve mints burns transfers)
    (∀ failure, final.phase = .asking (.done (.error failure)) → final.changes = []) ∧
    (∀ count, final.phase = .asking (.done (.ok count)) →
      Accounts admits (some count) final.changes) ∧
    (∃ outcome, Accounts admits outcome final.changes) ∧
    (middle.changes = [] ∨ middle.changes = final.changes) ∧
    ((∀ before after, elsewhere before after → after.movements = before.movements) →
      (∀ failure, final.phase = .asking (.done (.error failure)) →
        final.store.movements = store.movements) ∧
      (middle.store.movements = store.movements ∨
        middle.store.movements = final.store.movements) ∧
      ∀ first last offset limit,
        let listing := fun store => ((Store.Statement.list first last offset limit).run store).1
        listing middle.store = listing store ∨ listing middle.store = listing final.store) := by
  intro admits
  have once : WritesOnce admits (recordBlock settings resolve height mints burns transfers) :=
    writesOnce_recordBlock directory height mints burns transfers
  have stage : Stage admits final := rest.stage (first.stage (.asking once))
  have failed : ∀ failure, final.phase = .asking (.done (.error failure)) → final.changes = [] :=
    fun failure ended => stage.result ended
  obtain ⟨outcome, accounts⟩ := stage.accounts
  have whole : middle.changes = [] ∨ middle.changes = final.changes := by
    have within := rest.suffix
    rcases Nat.eq_zero_or_pos middle.changes.length with none | some
    · exact .inl (List.length_eq_zero_iff.mp none)
    · -- The one change has been made already, and there is no second one.
      exact .inr (within.eq_of_length_le (Nat.le_trans accounts.length_le some))
  refine ⟨failed, fun count ended => stage.result ended, ⟨outcome, accounts⟩, whole, ?_⟩
  intro quiet
  have reached : Replays store.movements middle.changes middle.store.movements :=
    first.replays quiet rfl
  have replays : Replays store.movements final.changes final.store.movements :=
    rest.replays quiet reached
  have seen : middle.store.movements = store.movements ∨
      middle.store.movements = final.store.movements := by
    rcases whole with none | same
    · rw [none] at reached
      exact .inl reached
    · rw [same] at reached
      exact .inr (reached.unique replays)
  refine ⟨?_, seen, ?_⟩
  · intro failure ended
    rw [failed failure ended] at replays
    exact replays
  · intro first last offset limit
    exact seen.imp (fun same => list_of_movements same first last offset limit)
      fun same => list_of_movements same first last offset limit

theorem Recording.Steps.told {store : Store} {connection : Connection} {changes : List Change}
    {request : Request} {next : request.Reply → Activity Failure Nat} {reply : request.Reply}
    (steps : Steps elsewhere before ⟨.asking (.ask request next), store, connection, changes⟩)
    (spares : SparesLedger request) (answered : Recording.Answered request store reply store) :
    Steps elsewhere before ⟨.asking (next reply), store, connection, changes⟩ := by
  let asking : Recording := ⟨.asking (.ask request next), store, connection, changes⟩
  have same : asking.changesAfter store = changes := if_pos rfl
  have step : Step elsewhere asking
      ⟨.asking (next reply), store, connection, asking.changesAfter store⟩ :=
    .answer rfl spares answered
  rw [same] at step
  exact steps.tail step

theorem looked_up {store : Store} (address : String) (found : Option Store.Registration)
    (known : Store.latestRegistration store.registrations address = .ok found) :
    Recording.Answered (.storage (.registration address)) store (.ok found) store :=
  .inl (by rw [Store.Statement.run, known])

def twoHeights : List Chain.MarkerTransfer :=
  [⟨"U", 1, "y", "x", "1", "b"⟩, ⟨"U", 9223372036854775808, "a", "x", "2", "b"⟩]

def recordingTwoHeights : Recording :=
  .start (recordBlock fromGenesis.ledger Directory.resolve 1 [] [] twoHeights) twoLinks

/-- The first row has been inserted when the second height turns out not to fit. -/
theorem late_misfit_leaves_nothing : ∃ middle final : Recording,
    Steps Eq recordingTwoHeights middle ∧ Steps Eq middle final ∧
    (∃ row, middle.connection = .locked [secondTransfer, row]) ∧
    final.phase = .asking (.done (.error (.ofCause .heightRange))) ∧
    middle.store.movements = [secondTransfer] ∧ final.store.movements = [secondTransfer] := by
  have begun : Steps Eq recordingTwoHeights recordingTwoHeights := .refl
  have sender := begun.told trivial
    (looked_up "y" (some (link "y")) (found_linked (by simp [twoLinks, linked])))
  have recipient := sender.told trivial (looked_up "x" none rfl)
  have other := recipient.told trivial
    (looked_up "a" (some (link "a")) (found_linked (by simp [twoLinks, linked])))
  have others := other.told trivial (looked_up "x" none rfl)
  have timed := others.told trivial
    (show Recording.Answered (.block 1) _ (.ok ⟨1, zeroStamp.time⟩) _ from rfl)
  have stamped := timed.told trivial (show Recording.Answered .times _ zeroTimes _ from rfl)
  have entered := stamped.tail (.enter rfl)
  have opened := entered.tail (.begin rfl)
  have inserted := opened.tail (.insert rfl rfl)
  have directory : ∀ address, (Directory.resolve address).Asks SparesLedger :=
    fun address => (Consumer.consults_resolve address).asks fun _ => trivial
  obtain ⟨_, _, _, _, quiet⟩ :=
    recording_is_all_or_nothing directory inserted (.single (.leave rfl))
  obtain ⟨unchanged, seen, _⟩ := quiet fun _ _ same => same ▸ rfl
  have ended := unchanged _ rfl
  exact ⟨_, _, inserted, .single (.leave rfl), ⟨_, rfl⟩, rfl,
    seen.elim id fun same => same.trans ended, ended⟩

end Runs

end Settlement.Ledger
