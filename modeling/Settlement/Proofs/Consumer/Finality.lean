import Settlement.Proofs.Activity.Together
import Settlement.Proofs.Consumer.Handling
import Settlement.Proofs.Consumer.Questions
import Settlement.Proofs.Store.Tracking

/-!
Any number of consumers side by side with the requests that submit transactions. A consumer
asks the chain while the row is free, so the row may have moved on when it writes. What it
writes is the verdict on what it has heard itself, and no terminal status is touched.
-/

namespace Settlement

namespace Finality

open Store (TrackedRow Identified)

abbrev ChainAnswer := Except Chain.Failure (Option Chain.TxResponse)

/-- The last transaction that a consumer has asked about, and the answer. -/
abbrev Heard := Option (String × ChainAnswer)

/-- A row that a consumer has changed, and what that consumer had heard. -/
structure Change where
  before : TrackedRow
  after : TrackedRow
  heard : Heard

structure Watched where
  store : Store
  changes : List Change

def changesOf (heard : Heard) (before after : List TrackedRow) : List Change :=
  (before.zip after).filterMap fun rows =>
    if rows.1 = rows.2 then none else some ⟨rows.1, rows.2, heard⟩

/-- The chain and the streams answer anything. A storage call that fails may still have taken
effect. -/
def told : Answering Store
  | .storage statement, before, reply, after =>
      (reply, after) = statement.run before ∨
        (∃ fault, reply = .error fault) ∧ (after = before ∨ after = (statement.run before).2)
  | _, before, _, after => after = before

/-- What requests may do to the tracked transactions at any time. -/
inductive Requested : List TrackedRow → List TrackedRow → Prop where
  | elsewhere (rows : List TrackedRow) : Requested rows rows
  | submit (rows : List TrackedRow) (id : Uuid) (message : Option String) (now : Timestamp) :
      Requested rows (rows.map fun row =>
        if row.id = id.text ∧ row.status = Named.text TxStatus.pending then
          { row with
            status := Named.text TxStatus.actionComplete, message, updated := now.stored }
        else row)
  | finish (rows : List TrackedRow) (id : Uuid) (status : TxStatus) (message : Option String)
      (now : Timestamp) (terminal : status.isTerminal = true) :
      Requested rows (Store.setStatus rows id status message now)

def world : World Watched Heard where
  answers heard request before reply after :=
    told request before.store reply after.store ∧
      after.changes = before.changes ++
        changesOf heard before.store.tracked after.store.tracked
  learn
    | _, .transaction txHash, answer => some (txHash, answer)
    | heard, _, _ => heard
  elsewhere before after :=
    Requested before.store.tracked after.store.tracked ∧ after.changes = before.changes

def IsConsumer (party : Party Heard Failure Unit) : Prop :=
  ∃ settings rounds, party = ⟨none, Consumer.supervise settings rounds⟩

/-- The row was open, and its status and message are the verdict on the consumer's own answer
for the row's hash. -/
structure Change.Right (change : Change) : Prop where
  isOpen : change.before.isOpen = true
  verdict : ∃ answer, change.heard = some (change.before.txHash, answer) ∧
    change.after = { change.before with
      status := Named.text (Consumer.verdict answer).1
      message := (Consumer.verdict answer).2
      updated := change.after.updated }

namespace Change.Right

variable {change : Change} (right : change.Right)

include right

theorem columns : change.after.columns = change.before.columns := by
  obtain ⟨answer, _, after⟩ := right.verdict
  rw [after]
  rfl

theorem final : change.after.isOpen = false := by
  obtain ⟨answer, _, after⟩ := right.verdict
  exact TrackedRow.not_isOpen (Consumer.verdict_terminal answer) (congrArg TrackedRow.status after)

end Change.Right

theorem changesOf_map (heard : Heard) (rows : List TrackedRow) (change : TrackedRow → TrackedRow) :
    changesOf heard rows (rows.map change) =
      (rows.filter fun row => row ≠ change row).map fun row => ⟨row, change row, heard⟩ := by
  induction rows with
  | nil => rfl
  | cons row rest ih =>
      unfold changesOf at ih ⊢
      by_cases same : row = change row
      · simpa [← same] using ih
      · simpa [same] using ih

theorem Requested.moved {before after : List TrackedRow} (requested : Requested before after) :
    ∃ change : TrackedRow → TrackedRow, after = before.map change ∧
      ∀ row, (change row).columns = row.columns ∧
        (row.isOpen = false → (change row).isOpen = false) := by
  cases requested with
  | elsewhere => exact ⟨id, (List.map_id _).symm, fun row => ⟨rfl, fun closed => closed⟩⟩
  | submit id message now =>
      refine ⟨_, rfl, fun row => ?_⟩
      split
      · rename_i chosen
        constructor
        · rfl
        · intro closed
          simp [TrackedRow.isOpen, chosen.2] at closed
      · exact ⟨rfl, fun closed => closed⟩
  | finish id status message now terminal =>
      refine ⟨_, rfl, fun row => ?_⟩
      split
      · exact ⟨rfl, fun _ => TrackedRow.not_isOpen terminal rfl⟩
      · exact ⟨rfl, fun closed => closed⟩

/-- The rows are those that there have always been, no row was changed twice, and a changed row
is not open again. -/
structure Sound (known : List (String × String × String)) (state : Watched) : Prop where
  columns : state.store.tracked.map TrackedRow.columns = known
  right : ∀ change ∈ state.changes, change.Right
  once : (state.changes.map fun change => change.before.id).Nodup
  final : ∀ change ∈ state.changes, ∀ row ∈ state.store.tracked, row.id = change.before.id →
    row.isOpen = false

namespace Sound

variable {known : List (String × String × String)} {before after : Watched} {heard : Heard}
  {change : TrackedRow → TrackedRow}

theorem ids (sound : Sound known before) :
    before.store.tracked.map TrackedRow.id = known.map Prod.fst := by
  rw [← sound.columns, List.map_map]
  rfl

theorem columns_map (sound : Sound known before)
    (rows : after.store.tracked = before.store.tracked.map change)
    (same : ∀ row ∈ before.store.tracked, (change row).columns = row.columns) :
    after.store.tracked.map TrackedRow.columns = known := by
  rw [rows, List.map_map, ← sound.columns]
  exact List.map_congr_left same

theorem answered (sound : Sound known before) (distinct : (known.map Prod.fst).Nodup)
    (rows : after.store.tracked = before.store.tracked.map change)
    (settles : ∀ row ∈ before.store.tracked,
      change row = row ∨ Change.Right ⟨row, change row, heard⟩)
    (changes : after.changes = before.changes ++
      changesOf heard before.store.tracked after.store.tracked) : Sound known after := by
  have same : ∀ row ∈ before.store.tracked, (change row).columns = row.columns := by
    intro row member
    rcases settles row member with kept | right
    · rw [kept]
    · exact right.columns
  have keyed : (before.store.tracked.map TrackedRow.id).Nodup := by
    rw [sound.ids]
    exact distinct
  rw [rows, changesOf_map] at changes
  have added : ∀ row ∈ before.store.tracked.filter (fun row => row ≠ change row),
      row ∈ before.store.tracked ∧ Change.Right ⟨row, change row, heard⟩ := by
    intro row member
    obtain ⟨there, differs⟩ := List.mem_filter.mp member
    rw [decide_eq_true_eq] at differs
    exact ⟨there, (settles row there).resolve_left (Ne.symm differs)⟩
  constructor
  · exact sound.columns_map rows same
  · intro made member
    rw [changes] at member
    rcases List.mem_append.mp member with old | new
    · exact sound.right made old
    · obtain ⟨row, here, rfl⟩ := List.mem_map.mp new
      exact (added row here).2
  · rw [changes, List.map_append, List.map_map]
    apply List.nodup_append.mpr
    refine ⟨sound.once, (List.filter_sublist.map TrackedRow.id).nodup keyed, ?_⟩
    -- A row that was changed before is not open any more.
    intro old earlier new here equal
    obtain ⟨made, member, rfl⟩ := List.mem_map.mp earlier
    obtain ⟨row, chosen, rfl⟩ := List.mem_map.mp here
    obtain ⟨there, right⟩ := added row chosen
    have closed := sound.final made member row there equal.symm
    rw [right.isOpen] at closed
    cases closed
  · intro made member row there equal
    rw [rows] at there
    obtain ⟨old, present, rfl⟩ := List.mem_map.mp there
    have id : (change old).id = old.id := congrArg Prod.fst (same old present)
    rw [id] at equal
    rcases settles old present with kept | right
    · rw [kept]
      rw [changes] at member
      rcases List.mem_append.mp member with earlier | new
      · exact sound.final made earlier old present equal
      · obtain ⟨row, chosen, rfl⟩ := List.mem_map.mp new
        obtain ⟨here, _⟩ := added row chosen
        obtain rfl := List.inj_on_of_nodup_map keyed present here equal
        simp [kept] at chosen
    · exact right.final

theorem unmoved (sound : Sound known before)
    (kept : after.store.tracked = before.store.tracked)
    (changes : after.changes = before.changes ++
      changesOf heard before.store.tracked after.store.tracked) : Sound known after := by
  have none : changesOf heard before.store.tracked before.store.tracked = [] := by
    simpa using changesOf_map heard before.store.tracked id
  rw [kept, none, List.append_nil] at changes
  constructor
  · rw [kept]
    exact sound.columns
  · rw [changes]
    exact sound.right
  · rw [changes]
    exact sound.once
  · rw [changes, kept]
    exact sound.final

theorem requested (sound : Sound known before)
    (requested : Requested before.store.tracked after.store.tracked)
    (changes : after.changes = before.changes) : Sound known after := by
  obtain ⟨change, rows, kept⟩ := requested.moved
  constructor
  · exact sound.columns_map rows fun row _ => (kept row).1
  · rw [changes]
    exact sound.right
  · rw [changes]
    exact sound.once
  · intro made member row there equal
    rw [changes] at member
    rw [rows] at there
    obtain ⟨old, present, rfl⟩ := List.mem_map.mp there
    have id : (change old).id = old.id := congrArg Prod.fst (kept old).1
    exact (kept old).2 (sound.final made member old present (id.symm.trans equal))

end Sound

theorem settle_right {rows after : List TrackedRow} {txHash : String} {answer : ChainAnswer}
    {now : Timestamp} (identified : Identified rows)
    (settled : Store.settle rows txHash (Consumer.verdict answer).1
      (Consumer.verdict answer).2 now = .ok after) :
    ∃ change : TrackedRow → TrackedRow, after = rows.map change ∧ ∀ row ∈ rows,
      change row = row ∨ Change.Right ⟨row, change row, some (txHash, answer)⟩ := by
  obtain ⟨change, same, _, changed⟩ := Store.settle_rows identified settled
  refine ⟨change, same, fun row member => ?_⟩
  rcases changed row member with kept | ⟨can, hash, made⟩
  · exact .inl kept
  · refine .inr ⟨can.isOpen, answer, by rw [hash], ?_⟩
    dsimp only
    rw [made]

def Plain : Request → Prop
  | .storage (.settle ..) => False
  | _ => True

theorem run_tracked {statement : Store.Statement} (plain : Plain (.storage statement))
    (store : Store) : (statement.run store).2.tracked = store.tracked := by
  cases statement with
  | settle txHash status message now => cases plain
  | addDeposit | addMigration | append =>
      simp only [Store.Statement.run]
      split <;> rfl
  | _ => rfl

theorem told_ok {statement : Store.Statement} {value : statement.Reply} {before after : Store}
    (answered : told (.storage statement) before (.ok value) after) :
    (.ok value, after) = statement.run before := by
  rcases answered with ran | ⟨⟨fault, failed⟩, _⟩
  · exact ran
  · cases failed

theorem told_store {request : Request} {before after : Store} {reply : request.Reply}
    (answered : told request before reply after) :
    after = before ∨ ∃ statement : Store.Statement, request = .storage statement ∧
      after = (statement.run before).2 := by
  cases request with
  | storage statement =>
      rcases answered with ran | ⟨_, same | ran⟩
      · exact .inr ⟨statement, rfl, (Prod.ext_iff.mp ran).2⟩
      · exact .inl same
      · exact .inr ⟨statement, rfl, ran⟩
  | _ => exact .inl answered

theorem told_tracked {request : Request} {before after : Store} {reply : request.Reply}
    (plain : Plain request) (answered : told request before reply after) :
    after.tracked = before.tracked := by
  rcases told_store answered with same | ⟨statement, rfl, ran⟩
  · rw [same]
  · rw [ran]
    exact run_tracked plain before

theorem sound_plain {known : List (String × String × String)} {heard : Heard} {request : Request}
    {before after : Watched} {reply : request.Reply} (plain : Plain request)
    (answered : world.answers heard request before reply after) (sound : Sound known before) :
    Sound known after :=
  sound.unmoved (told_tracked plain answered.1) answered.2

theorem plain_of_admits (request : Request) (admits : Consumer.Admits request) : Plain request := by
  cases request with
  | storage statement => cases statement <;> trivial
  | _ => trivial

theorem plain_of_enters (request : Request) (enters : Consumer.Enters request) :
    Plain request := by
  cases request with
  | storage statement => cases statement <;> trivial
  | _ => trivial

def pact (known : List (String × String × String)) : Pact world where
  own _ before after := Sound known before → Sound known after
  others before after := Sound known before → Sound known after
  refl _ := id
  trans first second sound := second (first sound)
  own_others own := own
  elsewhere happened sound := sound.requested happened.1 happened.2

/-- Whatever it has heard and whatever the state is, all its answers keep the state sound. -/
def Careful (known : List (String × String × String)) {ε α : Type} (activity : Activity ε α) :
    Prop :=
  ∀ heard state, activity.Abides (pact known) (fun _ _ _ => True) heard state

section Consumers

open Activity Consumer

variable {known : List (String × String × String)} {ε δ α β : Type}

theorem Careful.bind {first : Activity ε α} {next : α → Activity ε β}
    (careful : Careful known first) (rest : ∀ value, Careful known (next value)) :
    Careful known (first >>= next) := fun heard state =>
  (careful heard state).bind (fun heard value state _ => rest value heard state)
    fun _ _ _ _ => trivial

theorem careful_forEach {handle : α → Activity Failure Unit}
    (careful : ∀ item, Careful known (handle item)) (items : List α) :
    Careful known (forEach handle items) := by
  induction items with
  | nil => exact fun _ _ _ _ => trivial
  | cons item rest ih => exact (careful item).bind fun _ => ih

theorem careful_of_asks {activity : Activity ε α} (asks : activity.Asks Plain) :
    Careful known activity := by
  intro heard state
  induction activity generalizing heard state with
  | done result => exact fun _ _ => trivial
  | ask request next ih =>
      intro between _ reply after answered
      constructor
      · exact sound_plain asks.1 answered
      · exact ih reply (asks.2 reply) _ after

variable (distinct : (known.map Prod.fst).Nodup)
  (written : ∀ id ∈ known.map Prod.fst, ∃ uuid : Uuid, id = uuid.text)

include distinct written

theorem careful_settle (txHash : String) (answer : ChainAnswer) (now : Timestamp)
    (state : Watched) :
    (storage (.settle txHash (verdict answer).1 (verdict answer).2 now)).Abides (pact known)
      (fun _ _ _ => True) (some (txHash, answer)) state := by
  intro between _ reply after answered
  constructor
  · intro sound
    have identified : Identified between.store.tracked := by
      constructor
      · rw [sound.ids]
        exact distinct
      · intro row member
        apply written
        rw [← sound.ids]
        exact List.mem_map_of_mem member
    have ran : after.store = ((Store.Statement.settle txHash (verdict answer).1
        (verdict answer).2 now).run between.store).2 → Sound known after := by
      intro ran
      simp only [Store.Statement.run] at ran
      split at ran
      · rename_i rows settled
        obtain ⟨change, same, right⟩ := settle_right identified settled
        exact sound.answered distinct ((congrArg Store.tracked ran).trans same) right answered.2
      · exact sound.unmoved (congrArg Store.tracked ran) answered.2
    rcases answered.1 with done | ⟨_, same | done⟩
    · exact ran (Prod.ext_iff.mp done).2
    · exact sound.unmoved (congrArg Store.tracked same) answered.2
    · exact ran done
  · cases reply <;> exact fun _ _ => trivial

theorem careful_reconcile (tracked : Store.Tracked) : Careful known (reconcile tracked) := by
  unfold reconcile
  split
  · exact fun _ _ _ _ => trivial
  · intro heard state between _ answer told answered
    have asked : Plain (.transaction tracked.txHash) := trivial
    constructor
    · exact sound_plain asked answered
    · intro later _ stamp after stamped
      have marked : Plain .stamp := trivial
      constructor
      · exact sound_plain marked stamped
      -- The stamp has not changed what it has heard.
      · exact careful_settle distinct written tracked.txHash answer stamp.time after

theorem careful_handleObserved (settings : Settings) (observed : Observed) :
    Careful known (handleObserved settings observed) := by
  have looks : Careful known (storage (.tracked observed.txHash)) :=
    careful_of_asks (asks_storage trivial)
  apply looks.bind
  intro found
  cases found with
  | none => exact careful_of_asks ((asks_admitObserved settings observed).mono plain_of_admits)
  | some tracked => exact careful_reconcile distinct written tracked

theorem careful_consumeItem (settings : Settings) (item : Except Chain.Failure Chain.Batch) :
    Careful known (consumeItem settings item) := by
  cases item with
  | error failure => exact fun _ _ _ _ => trivial
  | ok batch =>
      have handled : Careful known (handleBatch settings batch) := by
        apply Careful.bind
        · exact careful_forEach (careful_handleObserved distinct written settings) _
        · intro _
          exact careful_of_asks ((asks_recordBlock settings _ batch).mono plain_of_enters).discard
      have named : Careful known ((handleBatch settings batch).mapFailure
          (Failure.within ("failed to handle block " ++ toString batch.height))) :=
        fun heard state => (handled heard state).mapFailure _
      apply named.bind
      intro _
      apply careful_of_asks
      apply (asks_storedHeight batch.height).bind
      intro height
      exact ⟨trivial, fun stamp => asks_storage trivial⟩

theorem careful_consume (settings : Settings) : Careful known (consume settings) := by
  have opens : (openCursor settings).Asks Plain :=
    asks_openCursor settings trivial trivial fun _ _ => trivial
  apply (careful_of_asks opens).bind
  intro cursor
  split
  · exact fun _ _ _ _ => trivial
  · rename_i height _
    have streamed : Careful known
        (Activity.request (.openStream Chain.Event.streamedTypes height) : Activity Failure _) :=
      careful_of_asks ⟨trivial, fun _ => trivial⟩
    exact streamed.bind fun items =>
      careful_forEach (careful_consumeItem distinct written settings) items

theorem careful_supervise (settings : Settings) (rounds : Nat) :
    Careful known (supervise settings rounds) := by
  induction rounds with
  | zero => exact fun _ _ _ _ => trivial
  | succ rounds ih =>
      intro heard state
      exact (careful_consume distinct written settings heard state).attempt
        fun heard _ state _ => ih heard state

end Consumers

structure Settled (answer : ChainAnswer) (row : TrackedRow) : Prop where
  complete : (row.status = Named.text TxStatus.complete ∧ row.message = none) ↔
    ∃ tx, answer = .ok (some tx) ∧ tx.result.code = 0
  failed : ∀ tx, answer = .ok (some tx) → tx.result.code ≠ 0 →
    row.status = Named.text TxStatus.error ∧ row.message = some tx.result.log
  unknown : (∀ tx, answer ≠ .ok (some tx)) →
    row.status = Named.text TxStatus.error ∧ row.message = some Consumer.nullResponse

theorem settled_verdict {answer : ChainAnswer} {row : TrackedRow}
    (status : row.status = Named.text (Consumer.verdict answer).1)
    (message : row.message = (Consumer.verdict answer).2) : Settled answer row := by
  have other : Named.text TxStatus.error ≠ Named.text TxStatus.complete := by decide
  rcases answer with failure | _ | tx
  · constructor <;> simp_all [Consumer.verdict]
  · constructor <;> simp_all [Consumer.verdict]
  · by_cases code : tx.result.code = 0
    · constructor <;> simp_all [Consumer.verdict, Chain.TxResponse.isFailed]
    · constructor <;> simp_all [Consumer.verdict, Chain.TxResponse.isFailed]

/-- Over any run no consumer adds or removes a tracked transaction or writes its id, hash or
kind, each one is changed by consumers at most once, and only if its stored status is open at
that moment, to what the consumer's own answer for it says. -/
theorem open_rows_are_settled_once {start : Store} {scene : Scene Watched Heard Failure Unit}
    (identified : Identified start.tracked)
    (reaches : world.Reaches IsConsumer ⟨⟨start, []⟩, []⟩ scene) :
    scene.state.store.tracked.map TrackedRow.columns = start.tracked.map TrackedRow.columns ∧
    (scene.state.changes.map fun change => change.before.id).Nodup ∧
    ∀ change ∈ scene.state.changes, change.before.isOpen = true ∧
      change.after.columns = change.before.columns ∧
      ∃ answer, change.heard = some (change.before.txHash, answer) ∧
        Settled answer change.after := by
  let known := start.tracked.map TrackedRow.columns
  have ids : known.map Prod.fst = start.tracked.map TrackedRow.id := List.map_map
  have initial : Sound known ⟨start, []⟩ := ⟨rfl, nofun, .nil, nofun⟩
  have distinct : (known.map Prod.fst).Nodup := by
    rw [ids]
    exact identified.distinct
  have written : ∀ id ∈ known.map Prod.fst, ∃ uuid : Uuid, id = uuid.text := by
    rw [ids]
    intro id member
    obtain ⟨row, there, rfl⟩ := List.mem_map.mp member
    exact identified.written row there
  have joining : ∀ party, IsConsumer party → ∀ state, (pact known).others ⟨start, []⟩ state →
      party.rest.Abides (pact known) (fun _ _ _ => True) party.memory state := by
    rintro party ⟨settings, rounds, rfl⟩ state _
    exact careful_supervise distinct written settings rounds none state
  obtain ⟨kept, _⟩ := reaches.abides joining (by simp)
  obtain ⟨columns, right, once, _⟩ := kept initial
  refine ⟨columns, once, fun change member => ?_⟩
  obtain ⟨answer, heard, after⟩ := (right change member).verdict
  refine ⟨(right change member).isOpen, (right change member).columns, answer, heard, ?_⟩
  exact settled_verdict (congrArg TrackedRow.status after) (congrArg TrackedRow.message after)

def submitted : TrackedRow where
  id := zeroStamp.id.text
  txHash := "A1"
  kind := Named.text TxKind.migration
  status := Named.text TxStatus.pending
  message := none
  created := zeroStamp.time.stored
  updated := zeroStamp.time.stored

def migrated : Chain.Batch :=
  ⟨1, [⟨Chain.Event.migrationType, "A1", 1, [("_contract_address", "c"), ("code_id", "7")]⟩]⟩

/-- The row moves on while the chain is asked. -/
theorem settles_what_has_moved_on : ∃ scene : Scene Watched Heard Failure Unit,
    world.Reaches IsConsumer ⟨⟨{ Store.empty with tracked := [submitted] }, []⟩, []⟩ scene ∧
    scene.state.changes.map (fun change => (change.before.status, change.after.status)) =
      [("ACTION_COMPLETE", "COMPLETE")] ∧
    (scene.state.changes.map fun change => change.before.id).Nodup := by
  have begun : world.Reaches IsConsumer ⟨⟨{ Store.empty with tracked := [submitted] }, []⟩, []⟩
      ⟨⟨{ Store.empty with tracked := [submitted] }, []⟩,
        [⟨none, Consumer.supervise fromGenesis 1⟩]⟩ := .single (.join ⟨_, _, rfl⟩)
  have absent := begun.only_answer (show world.answers _ _ _ _ ⟨_, _⟩ from ⟨.inl rfl, rfl⟩)
  have stamped := absent.only_answer
    (show world.answers _ .stamp _ zeroStamp ⟨_, _⟩ from ⟨rfl, rfl⟩)
  have created := stamped.only_answer (show world.answers _ _ _ _ ⟨_, _⟩ from ⟨.inl rfl, rfl⟩)
  have opened := created.only_answer (show world.answers _ _ _ _ ⟨_, _⟩ from ⟨.inl rfl, rfl⟩)
  have delivered := opened.only_answer
    (show world.answers _ (.openStream _ _) _ [.ok migrated] ⟨_, _⟩ from ⟨rfl, rfl⟩)
  have found := delivered.only_answer (show world.answers _ _ _ _ ⟨_, _⟩ from ⟨.inl rfl, rfl⟩)
  have confirmed := found.only_answer
    (show world.answers _ (.transaction _) _ (.ok (some ⟨"A1", 1, 0, ""⟩)) ⟨_, _⟩
      from ⟨rfl, rfl⟩)
  have moved := confirmed.elsewhere (show world.elsewhere _
    ⟨{ Store.empty with
      cursors := [Store.Cursor.row ⟨zeroStamp.id, 0, zeroStamp.time, zeroStamp.time⟩]
      tracked := [{ submitted with status := Named.text TxStatus.actionComplete }] }, _⟩
    from ⟨.submit [submitted] zeroStamp.id none zeroStamp.time, rfl⟩)
  have restamped := moved.only_answer
    (show world.answers _ .stamp _ zeroStamp ⟨_, _⟩ from ⟨rfl, rfl⟩)
  have settled := restamped.only_answer (show world.answers _ _ _ _ ⟨_, _⟩ from ⟨.inl rfl, rfl⟩)
  have identified : Identified [submitted] := ⟨by simp, by simp [submitted]⟩
  obtain ⟨_, once, _⟩ := open_rows_are_settled_once identified settled
  exact ⟨_, settled, rfl, once⟩

end Finality

end Settlement
