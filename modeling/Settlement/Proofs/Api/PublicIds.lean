import Settlement.Proofs.Api.Paging
import Settlement.Proofs.Consumer.Finality
import Settlement.Proofs.Ledger.Offering

/-!
The ids that clients see. Bare hashes and keys share one space, and what keeps them apart is
that a hash has no hyphen and a key has one. The count behind an id is taken over the whole
ledger, so a row has one id whatever has been asked for.
-/

namespace Settlement.PublicIds

open Activity
open Store (MovementRow Listed Kept siblings)

def Delivers : (request : Request) → request.Reply → Prop
  | .openStream .., items => ∀ batch, .ok batch ∈ items → ∀ event ∈ batch.events,
      '-' ∉ event.txHash.toList
  | _, _ => True

/-- All other replies from outside are any. Others do what they like to all tables but the
ledger. -/
def world : World Store Unit where
  answers _ request before reply after :=
    Finality.told request before reply after ∧ Delivers request reply
  learn _ _ _ := ()
  elsewhere before after := after.movements = before.movements

def IsConsumer (party : Party Unit Failure Unit) : Prop :=
  ∃ settings rounds, party = ⟨(), Consumer.supervise settings rounds⟩

/-- A ledger whose keys are hashes, all without a hyphen, with a number behind one. -/
structure Labelled (rows : List MovementRow) : Prop where
  kept : Kept rows
  named : ∀ row ∈ rows, ∃ hash, ∃ index : Nat, row.legacyHash = some hash ∧
    row.key = hash ++ "-" ++ toString index ∧ '-' ∉ hash.toList

theorem labelled_nil : Labelled [] where
  kept := ⟨fun _ member => absurd member List.not_mem_nil, List.nodup_nil⟩
  named _ member := absurd member List.not_mem_nil

section Reached

def pact : Pact world where
  own _ before after := Labelled before.movements → Labelled after.movements
  others before after := Labelled before.movements → Labelled after.movements
  refl _ := id
  trans first second labelled := second (first labelled)
  own_others own := own
  elsewhere happened labelled := happened ▸ labelled

def Labels : Request → Prop
  | .storage (.append entries _) => ∃ time admitted,
      entries = Ledger.entriesFrom time 0 admitted ∧
        ∀ item ∈ admitted, '-' ∉ item.txHash.toList
  | _ => True

theorem Labelled.append {time : Timestamp} {now : Nat → Timestamp} {admitted : List Ledger.Admitted}
    {rows after : List MovementRow} {count : Nat} (labelled : Labelled rows)
    (plain : ∀ item ∈ admitted, '-' ∉ item.txHash.toList)
    (appended : Store.appendEntries now (Ledger.entriesFrom time 0 admitted) rows =
      some (count, after)) : Labelled after := by
  constructor
  · exact labelled.kept.append appended
  · obtain ⟨rfl, _⟩ := Ledger.appendEntries_offered appended
    intro row member
    rcases List.mem_append.mp member with old | new
    · exact labelled.named row old
    · obtain ⟨item, there, index, _, hash, key⟩ :=
        Ledger.key_offered (List.mem_filter.mp new).1
      exact ⟨item.txHash, index, hash, key, plain item there⟩

theorem labelled_told {request : Request} {before after : Store} {reply : request.Reply}
    (labels : Labels request) (answered : Finality.told request before reply after)
    (labelled : Labelled before.movements) : Labelled after.movements := by
  rcases Finality.told_store answered with rfl | ⟨statement, rfl, rfl⟩
  · exact labelled
  · cases statement with
    | append entries now =>
        obtain ⟨time, admitted, rfl, plain⟩ := labels
        simp only [Store.Statement.run]
        split
        · rename_i appended
          exact labelled.append plain appended
        · exact labelled
    | settle | addDeposit | addMigration =>
        simp only [Store.Statement.run]
        split <;> exact labelled
    | _ => exact labelled

theorem abides_labels {ε α : Type} {activity : Activity ε α} (asks : activity.Asks Labels)
    (memory : Unit) (state : Store) :
    activity.Abides pact (fun _ _ _ => True) memory state := by
  induction activity generalizing memory state with
  | done result => exact fun _ _ => trivial
  | ask request next ih =>
      intro between _ reply after answered
      exact ⟨labelled_told asks.1 answered.1, ih reply (asks.2 reply) () after⟩

section Consumers

open Consumer

theorem labels_of_attends (request : Request) (attends : Attends request) : Labels request := by
  cases request with
  | storage statement => cases statement <;> trivial
  | _ => trivial

theorem labels_recordBlock (settings : Settings) (height : Nat) {batch : Chain.Batch}
    (plain : ∀ event ∈ batch.events, '-' ∉ event.txHash.toList) :
    (recordBlock settings height batch).Asks Labels := by
  have asks : (Ledger.admitBlock settings.ledger Directory.resolve
      (batch.mints settings.contract) (batch.transfers settings.contract)
      batch.markerTransfers).Asks Labels := (consults_admitBlock _ _ _ _).asks fun _ => trivial
  refine (asks.mapFailure _).bind_yields
    ((yields_admitBlock settings.ledger settings.contract batch).mapFailure _) ?_
  intro admitted known
  split
  · trivial
  · refine ⟨trivial, fun reply => ?_⟩
    cases reply with
    | error failure => trivial
    | ok header =>
        refine ⟨trivial, fun now => ⟨⟨header.time, admitted, rfl, ?_⟩, fun reply => ?_⟩⟩
        · intro item member
          obtain ⟨event, there, same⟩ := List.mem_map.mp (known item member)
          exact same ▸ plain event there
        · rcases reply with fault | _ | count <;> trivial

theorem labels_consumeItem (settings : Settings) {item : Except Chain.Failure Chain.Batch}
    (plain : ∀ batch, item = .ok batch → ∀ event ∈ batch.events, '-' ∉ event.txHash.toList) :
    (consumeItem settings item).Asks Labels := by
  cases item with
  | error failure => trivial
  | ok batch =>
      have events : (handleEvents settings batch (batch.transfers settings.contract)).Asks Labels :=
        (asks_handleEvents settings batch _).mono labels_of_attends
      have handled : (handleBatch settings batch).Asks Labels :=
        events.bind fun _ => (labels_recordBlock settings batch.height (plain batch rfl)).discard
      refine (handled.mapFailure _).bind fun _ => (asks_storedHeight batch.height).bind ?_
      exact fun height => ⟨trivial, fun stamp => asks_storage trivial⟩

theorem abides_consume (settings : Settings) (memory : Unit) (state : Store) :
    (consume settings).Abides pact (fun _ _ _ => True) memory state := by
  have opens : (openCursor settings).Asks Labels :=
    asks_openCursor settings trivial trivial fun _ _ => trivial
  refine (abides_labels opens memory state).bind ?_ fun _ _ _ _ => trivial
  intro memory cursor state _
  cases Height.next? (Height.shown cursor.height) with
  | none => exact fun _ _ => trivial
  | some height =>
      intro between _ items after answered
      have asked : Labels (.openStream Chain.Event.streamedTypes height) := trivial
      refine ⟨labelled_told asked answered.1, ?_⟩
      refine abides_labels (asks_forEach fun item member => ?_) () after
      refine labels_consumeItem settings ?_
      rintro batch rfl
      exact answered.2 batch member

theorem abides_supervise (settings : Settings) (rounds : Nat) (memory : Unit) (state : Store) :
    (supervise settings rounds).Abides pact (fun _ _ _ => True) memory state := by
  induction rounds generalizing memory state with
  | zero => exact fun _ _ => trivial
  | succ rounds ih =>
      exact (abides_consume settings memory state).attempt fun memory _ state _ => ih memory state

end Consumers

theorem labelled_of_reaches {start : Store} {scene : Scene Store Unit Failure Unit}
    (labelled : Labelled start.movements) (reaches : world.Reaches IsConsumer ⟨start, []⟩ scene) :
    Labelled scene.state.movements := by
  have joining : ∀ party, IsConsumer party → ∀ state, pact.others start state →
      party.rest.Abides pact (fun _ _ _ => True) party.memory state := by
    rintro party ⟨settings, rounds, rfl⟩ state _
    exact abides_supervise settings rounds () state
  obtain ⟨kept, _⟩ := reaches.abides joining (by simp)
  exact kept labelled

end Reached

/-- The id under which clients see a row. -/
def publicId (rows : List MovementRow) (row : MovementRow) : String :=
  match row.legacyHash, siblings rows row with
  | some hash, 1 => hash
  | _, _ => row.key

section Ids

variable {rows : List MovementRow} {row : MovementRow} {hash : String}

theorem txId_of_isOf {item : Listed} (line : item.IsOf rows row) :
    (Api.Entry.ofListed item).txId = publicId rows row := by
  obtain ⟨reads, count⟩ := line
  obtain ⟨key, bare, _⟩ := row.read_ok reads
  let told (bare : Option String) (count : Nat) (key : String) : String :=
    match bare, count with
    | some hash, 1 => hash
    | _, _ => key
  change told item.movement.legacyHash item.movementsInTx item.movement.key =
    told row.legacyHash (siblings rows row) row.key
  rw [bare, key, count]

theorem txIds_of_isOf {shown : List MovementRow} {lines : List Listed}
    (all : List.Forall₂ (Listed.IsOf rows) shown lines) :
    (lines.map fun item => (Api.Entry.ofListed item).txId) = shown.map (publicId rows) := by
  induction all with
  | nil => rfl
  | cons line _ ih => rw [List.map_cons, List.map_cons, txId_of_isOf line, ih]

theorem siblings_eq_one (kept : Kept rows) (member : row ∈ rows)
    (bare : row.legacyHash = some hash) :
    siblings rows row = 1 ↔ ∀ other ∈ rows, other.legacyHash = some hash → other = row := by
  let mates := rows.filter fun other => other.legacyHash = some hash
  have count : siblings rows row = mates.length := by
    simp only [siblings, bare, List.countP_eq_length_filter, mates]
  have own : row ∈ mates := List.mem_filter.mpr ⟨member, by simpa using bare⟩
  have nodup : mates.Nodup := (List.Nodup.of_map _ kept.distinct).filter _
  rw [count]
  constructor
  · intro single other there same
    obtain ⟨only, alone⟩ := List.length_eq_one_iff.mp single
    have mate : other ∈ mates := List.mem_filter.mpr ⟨there, by simpa using same⟩
    rw [alone, List.mem_singleton] at own mate
    rw [own, mate]
  · intro alone
    have all : ∀ other ∈ mates, other = row := fun other mate =>
      alone other (List.mem_filter.mp mate).1 (by simpa using (List.mem_filter.mp mate).2)
    rw [List.eq_replicate_of_mem all, List.nodup_replicate] at nodup
    exact Nat.le_antisymm nodup (List.length_pos_of_mem own)

theorem publicId_cases (bare : row.legacyHash = some hash) :
    siblings rows row = 1 ∧ publicId rows row = hash ∨
      siblings rows row ≠ 1 ∧ publicId rows row = row.key := by
  by_cases single : siblings rows row = 1
  · exact .inl ⟨single, by simp only [publicId, bare, single]⟩
  · refine .inr ⟨single, ?_⟩
    unfold publicId
    split
    · rename_i one
      exact absurd one single
    · rfl

theorem hash_ne_key {other : String} {index : Nat} (plain : '-' ∉ hash.toList) :
    hash ≠ other ++ "-" ++ toString index := by
  rintro rfl
  simp [String.toList_append] at plain

theorem publicId_inj (labelled : Labelled rows) {other : MovementRow} (here : row ∈ rows)
    (there : other ∈ rows) (same : publicId rows row = publicId rows other) : row = other := by
  obtain ⟨hash, index, bare, key, plain⟩ := labelled.named row here
  obtain ⟨hash', index', bare', key', plain'⟩ := labelled.named other there
  rcases publicId_cases bare with ⟨single, shown⟩ | ⟨_, shown⟩ <;>
    rcases publicId_cases bare' with ⟨_, shown'⟩ | ⟨_, shown'⟩ <;>
    rw [shown, shown'] at same
  · subst same
    exact ((siblings_eq_one labelled.kept here bare).mp single other there bare').symm
  · rw [key'] at same
    exact absurd same (hash_ne_key plain)
  · rw [key] at same
    exact absurd same.symm (hash_ne_key plain')
  · exact labelled.kept.key_inj here there same

end Ids

/-- In every ledger that consumers write, each row has one id, which no other row has. It is the
bare hash if the row is the only one with this hash, and the key if not, whatever window and
page are asked for. -/
theorem ids_are_unambiguous {start : Store} {scene : Scene Store Unit Failure Unit}
    (empty : start.movements = []) (reaches : world.Reaches IsConsumer ⟨start, []⟩ scene) :
    ∃ shown : MovementRow → String,
      (∀ query : Api.Query, ∃ lines, Api.listed query scene.state = .ok lines ∧
        (Api.listMovements query).run scene.state.reply? = some (.ok (Api.listJson lines)) ∧
        List.Forall₂ (fun row item => row ∈ scene.state.movements ∧
            row.read = .ok item.movement ∧ (Api.Entry.ofListed item).txId = shown row)
          (Store.listedRows scene.state.movements query.first query.last query.page.offset
            query.page.limit) lines ∧
        (lines.map fun item => (Api.Entry.ofListed item).txId).Nodup) ∧
      (∀ row ∈ scene.state.movements, ∃ hash, ∃ index : Nat, row.legacyHash = some hash ∧
        row.key = hash ++ "-" ++ toString index ∧
        (shown row = hash ↔ ∀ other ∈ scene.state.movements, other.legacyHash = some hash →
          other = row) ∧
        (shown row ≠ hash → shown row = hash ++ "-" ++ toString index)) ∧
      ∀ row ∈ scene.state.movements, ∀ other ∈ scene.state.movements,
        shown row = shown other → row = other := by
  have none : Labelled start.movements := by
    rw [empty]
    exact labelled_nil
  have labelled := labelled_of_reaches none reaches
  refine ⟨publicId scene.state.movements, fun query => ?_, fun row member => ?_,
    fun row here other there => publicId_inj labelled here there⟩
  · obtain ⟨lines, read, shows⟩ := labelled.kept.listed query.first query.last
      query.page.offset query.page.limit
    have listed : Api.listed query scene.state = .ok lines := read
    have sublist : (Store.listedRows scene.state.movements query.first query.last
        query.page.offset query.page.limit).Sublist _ := Store.listedRows_sublist _ _
    have inLedger : ∀ row ∈ Store.listedRows scene.state.movements query.first query.last
        query.page.offset query.page.limit, row ∈ scene.state.movements :=
      fun row member => (Store.mem_window.mp (sublist.subset member)).1
    refine ⟨lines, listed, by rw [Api.run_listMovements, listed]; rfl, ?_, ?_⟩
    · exact (List.forall₂_and_left _ _).mpr
        ⟨inLedger, shows.imp fun row item line => ⟨line.1, txId_of_isOf line⟩⟩
    · rw [txIds_of_isOf shows]
      refine List.Nodup.map_on ?_ (labelled.kept.window_nodup.sublist sublist)
      exact fun row here other there =>
        publicId_inj labelled (inLedger row here) (inLedger other there)
  · -- The id is the bare hash or the key, and these differ, as the hash has no hyphen.
    obtain ⟨hash, index, bare, key, plain⟩ := labelled.named row member
    refine ⟨hash, index, bare, key, ?_, ?_⟩
    · rw [← siblings_eq_one labelled.kept member bare]
      rcases publicId_cases bare with ⟨single, shown⟩ | ⟨shared, shown⟩
      · exact ⟨fun _ => single, fun _ => shown⟩
      · rw [shown, key]
        exact ⟨fun same => absurd same.symm (hash_ne_key plain), fun single => absurd single shared⟩
    · intro differs
      rcases publicId_cases bare with ⟨_, shown⟩ | ⟨_, shown⟩
      · exact absurd shown differs
      · rw [shown, key]

/-! A block with two transfers in one transaction and one in another. -/

def threeTransfers : Chain.Batch where
  height := 1
  events := Ledger.twoTransfers.events ++ [⟨Chain.Event.markerTransferType, "S", 1,
    [("from_address", "y"), ("to_address", "x"), ("amount", "3"), ("denom", "b")]⟩]

def atGenesis : Store.Cursor := ⟨zeroStamp.id, 0, zeroStamp.time, zeroStamp.time⟩

def bothLinked : Store :=
  { Store.empty with
    cursors := [atGenesis.row]
    registrations := [Ledger.linked "a", Ledger.linked "y"] }

theorem tells_cursor : world.answers () (.storage (.cursor zeroStamp.id)) bothLinked
    (.ok (some atGenesis)) bothLinked := by
  refine ⟨.inl ?_, trivial⟩
  have found : bothLinked.cursors.find? (fun row => row.stream = zeroStamp.id.text) =
      some atGenesis.row := by simp [bothLinked, Store.Cursor.row, atGenesis]
  simp only [Store.Statement.run, Store.findCursor, found, Store.readOptional,
    Store.Cursor.read_row]
  rfl

theorem tells_linked {address : String} (chosen : bothLinked.registrations.filter
    (fun row => row.address = address) = [Ledger.linked address]) :
    world.answers () (.storage (.registration address)) bothLinked
      (.ok (some (Ledger.link address))) bothLinked :=
  ⟨.inl (by rw [Store.Statement.run, Ledger.found_linked chosen]), trivial⟩

theorem tells_unlinked {address : String}
    (unknown : bothLinked.registrations.filter (fun row => row.address = address) = []) :
    world.answers () (.storage (.registration address)) bothLinked (.ok none) bothLinked := by
  refine ⟨.inl ?_, trivial⟩
  rw [Store.Statement.run, Store.latestRegistration, unknown]
  rfl

def transferRow (key hash sender amount : String) : MovementRow :=
  { Ledger.secondTransfer with key, legacyHash := some hash, fromAddress := sender, amount }

theorem three_transfers_are_told_apart : ∃ scene : Scene Store Unit Failure Unit,
    world.Reaches IsConsumer ⟨bothLinked, []⟩ scene ∧
    scene.state.movements.map (·.key) = ["T-0", "T-1", "S-2"] ∧
    ∃ shown : MovementRow → String,
      scene.state.movements.map shown = ["T-0", "T-1", "S"] := by
  have a : bothLinked.registrations.filter (fun row => row.address = "a") =
      [Ledger.linked "a"] := by simp [bothLinked, Ledger.linked]
  have y : bothLinked.registrations.filter (fun row => row.address = "y") =
      [Ledger.linked "y"] := by simp [bothLinked, Ledger.linked]
  have x : bothLinked.registrations.filter (fun row => row.address = "x") = [] := by
    simp [bothLinked, Ledger.linked]
  have begun : world.Reaches IsConsumer ⟨bothLinked, []⟩
      ⟨bothLinked, [⟨(), Consumer.supervise fromGenesis 1⟩]⟩ := .single (.join ⟨_, _, rfl⟩)
  have opened := begun.only_answer tells_cursor
  have delivered := opened.only_answer
    (show world.answers _ (.openStream _ _) _ [.ok threeTransfers] _ from ⟨rfl, by
      rintro batch member
      cases List.mem_singleton.mp member
      decide⟩)
  have sender := (delivered.only_answer (tells_linked a)).only_answer (tells_unlinked x)
  have other := (sender.only_answer (tells_linked y)).only_answer (tells_unlinked x)
  have last := (other.only_answer (tells_linked y)).only_answer (tells_unlinked x)
  have timed := last.only_answer
    (show world.answers _ (.block _) _ (.ok ⟨1, zeroStamp.time⟩) _ from ⟨rfl, trivial⟩)
  have stamped := timed.only_answer
    (show world.answers _ .times _ zeroTimes _ from ⟨rfl, trivial⟩)
  have entered := stamped.only_answer (show world.answers _ _ _ _ _ from ⟨.inl rfl, trivial⟩)
  let rows := [transferRow "T-0" "T" "a" "1", transferRow "T-1" "T" "y" "2",
    transferRow "S-2" "S" "y" "3"]
  obtain ⟨shown, _, ids, _⟩ := ids_are_unambiguous rfl entered
  have shared : ∀ row ∈ rows, (∃ other ∈ rows, other.legacyHash = row.legacyHash ∧ other ≠ row) →
      shown row = row.key := by
    rintro row member ⟨other, there, same, differs⟩
    obtain ⟨hash, index, bare, key, only, otherwise⟩ := ids row member
    rw [key]
    exact otherwise fun equal => differs (only.mp equal other there (same.trans bare))
  have alone : ∀ row ∈ rows, (∀ other ∈ rows, other.legacyHash = row.legacyHash → other = row) →
      some (shown row) = row.legacyHash := by
    intro row member single
    obtain ⟨hash, index, bare, key, only, _⟩ := ids row member
    rw [bare, only.mpr fun other there same => single other there (same.trans bare.symm)]
  refine ⟨_, entered, rfl, shown, ?_⟩
  change rows.map shown = _
  have first := shared _ (show transferRow "T-0" "T" "a" "1" ∈ rows by decide) (by decide)
  have second := shared _ (show transferRow "T-1" "T" "y" "2" ∈ rows by decide) (by decide)
  have third := alone _ (show transferRow "S-2" "S" "y" "3" ∈ rows by decide) (by decide)
  simp only [rows, List.map_cons, List.map_nil, first, second, Option.some.inj third]
  rfl

end Settlement.PublicIds
