import Settlement.Proofs.Consumer.Gains
import Settlement.Proofs.DepositQueue.Leases

/-!
Several consumers at once. However their questions fall between one another, as soon as every
batch was handled without an error the tables say what they say when the batches are handled
one after the other.
-/

namespace Settlement

/-- The chain gives its answers, and only storage may fail. -/
def History.stable (history : History) : Answering Store
  | .transaction txHash, before, reply, after =>
      after = before ∧ reply = .ok (history.transaction txHash)
  | .block height, before, reply, after => after = before ∧ reply = .ok (history.block height)
  | request, before, reply, after => history.answers request before reply after

/-- The same rows up to their order, generated identifiers and times. -/
structure Store.SameRecords (first second : Store) : Prop where
  tracked : first.tracked.map TrackedRow.core = second.tracked.map TrackedRow.core
  migrations : (first.migrations.map MigrationRow.core).Perm
    (second.migrations.map MigrationRow.core)
  deposits : (first.deposits.map DepositRow.core).Perm (second.deposits.map DepositRow.core)
  movements : (first.movements.map MovementRow.facts).Perm
    (second.movements.map MovementRow.facts)

theorem Activity.Run.alone {γ ε α : Type} {answers : Answering Store}
    {elsewhere : Store → Store → Prop} {program rest : Activity ε α} {start state : Store}
    {joins : Party γ ε α → Prop} {memory : γ} (joining : joins ⟨memory, program⟩)
    (run : Activity.Run answers (fun _ => False) program start rest state) :
    (World.shared γ answers elsewhere).Reaches joins ⟨start, []⟩ ⟨state, [⟨memory, rest⟩]⟩ := by
  induction run with
  | begin => exact .single (.join joining)
  | answer _ answered ih => exact ih.only_answer answered
  | restart _ never => exact never.elim

namespace Consumer

open Activity
open DepositQueue (oneDeposit)
open Store (Lasts Identified Unique SameRecords)

variable {settings : Settings} {history : History} {batches : List Chain.Batch} {start : Store}

theorem manners_stable (history : History) : Manners history history.stable True where
  within := by
    intro request before reply after answered
    cases request with
    | transaction txHash => exact ⟨answered.1, .inl answered.2⟩
    | block height => exact ⟨answered.1, .inl answered.2⟩
    | _ => exact answered
  storage _ := .inl trivial
  transaction _ := trivial
  block _ := trivial

/-- It handles some of the batches, one after the other. -/
def Handles (settings : Settings) (batches : List Chain.Batch)
    (party : Party (List Chain.Batch) Failure Unit) : Prop :=
  party.memory ⊆ batches ∧ party.rest = forEach (handleBatch settings) party.memory

section Reached

variable {answers : Answering Store} {disturbed : Prop}
  (manners : Manners history answers disturbed)
  (stable : ∀ {txHash before answer after},
    answers (.transaction txHash) before answer after → answer = .ok (history.transaction txHash))

def Ending (settings : Settings) (history : History) (disturbed : Prop)
    (batches : List Chain.Batch) (start : Store) (work : List Chain.Batch)
    (result : Except Failure Unit) (store : Store) : Prop :=
  match result with
  | .ok _ => ∀ batch ∈ work, Delivered settings history batch store
  | .error _ => disturbed ∨ ∃ batch ∈ batches, ∃ earlier,
      Gained settings history batches start earlier ∧ Lasts start earlier ∧
        Refused settings history batch earlier

include manners stable in
theorem gained_of_reached {scene : Scene Store (List Chain.Batch) Failure Unit}
    (identified : Identified start.tracked) (unique : Unique start)
    (reached : (World.shared (List Chain.Batch) answers fun _ _ => False).Reaches
      (Handles settings batches) ⟨start, []⟩ scene) :
    Gained settings history batches start scene.state ∧
      ∀ party ∈ scene.parties, ∀ result, party.rest = .done result →
        Ending settings history disturbed batches start party.memory result scene.state := by
  let pact := gaining settings history batches answers start
  have handles : ∀ party, Handles settings batches party → ∀ state, pact.others start state →
      party.rest.Abides pact (fun told result store =>
        Ending settings history disturbed batches start told result store) party.memory state := by
    rintro party ⟨within, begins⟩ state since
    have known := identified.lasts (since.2 identified)
    have conducts : ∀ batch ∈ party.memory, ∀ request before after, pact.others state before →
        Conducted settings history batch answers pact state request before after →
        pact.own request before after := fun batch member request before after _ conducted =>
      gains_conducted (fun answered => by rw [stable answered]) (within member) known
        (since.1 (.refl unique)) conducted
    have lasts : ∀ {before after}, Identified before.tracked → pact.others before after →
        Lasts before after := fun known passed => passed.2 known
    rw [begins]
    have abides := (abides_handleBatches manners lasts known conducts party.memory).remembers
    refine abides.mono ?_
    rintro told result store ⟨rfl, ended⟩
    cases result with
    | ok value => exact ended
    | error failure =>
        -- Unless it was disturbed, the tables were against one of its batches, at some time since
        -- the start.
        rcases ended with cause | ⟨batch, member, earlier, toEarlier, _, refused⟩
        · exact .inl cause
        · have whole := pact.trans since toEarlier
          exact .inr ⟨batch, within member, earlier, whole.1 (.refl unique), whole.2 identified,
            refused⟩
  obtain ⟨since, abide⟩ := reached.abides handles (by simp)
  refine ⟨since.1 (.refl unique), fun party member result ended => ?_⟩
  have left := abide party member
  rw [ended] at left
  exact left scene.state (pact.refl _)

end Reached

section Outcome

variable {one other store earlier : Store} {batch : Chain.Batch}

variable (gained : Gained settings history batches start store)
  (delivered : ∀ batch ∈ batches, Delivered settings history batch store)

include gained delivered

theorem present_migration (row : Store.MigrationRow)
    (due : DueMigration settings history batches start row) :
    row.txHash ∈ store.migrations.map Store.MigrationRow.txHash := by
  obtain ⟨untracked, confirmed, batch, member, migration, rfl, found⟩ := due
  rw [← gained.hashes] at untracked
  have handled := (delivered batch member).events _ (List.mem_of_find?_eq_some found)
  exact handled.mem_migrations untracked confirmed

theorem present_deposit (row : Store.DepositRow)
    (due : DueDeposit settings history batches start row) :
    row.txHash ∈ store.deposits.map Store.DepositRow.txHash := by
  obtain ⟨untracked, confirmed, batch, member, transfer, height, rfl, _, found⟩ := due
  have bound : isBankBound settings transfer = true := by
    have hit := List.find?_some found
    simp only [Observed.deposits, Bool.and_eq_true] at hit
    exact hit.1
  rw [← gained.hashes] at untracked
  have handled := (delivered batch member).events _ (List.mem_of_find?_eq_some found)
  exact handled.mem_deposits untracked bound confirmed

theorem present_movement (row : Store.MovementRow)
    (due : DueMovement settings history batches start row) :
    row.key ∈ store.movements.map (·.key) := by
  obtain ⟨batch, member, entries, made, entry, inEntries, fact⟩ := due
  obtain ⟨others, otherMade, written⟩ := (delivered batch member).movements
  rw [gained.registrations, made] at otherMade
  cases otherMade
  rw [Store.Entry.key_fact fact]
  exact (written entry inEntries).2

theorem settled_of_delivered (unique : Unique start) {before after : Store.TrackedRow}
    (there : after ∈ store.tracked) (can : before.CanSettle)
    (seen : ∃ batch ∈ batches, ∃ observed ∈ settings.observed batch,
      observed.txHash = before.txHash) : after ≠ before := by
  rintro rfl
  obtain ⟨batch, member, observed, inBatch, hash⟩ := seen
  have distinct : (store.tracked.map Store.TrackedRow.txHash).Nodup := by
    rw [gained.hashes]
    exact unique.tracked
  have handled := (delivered batch member).events observed inBatch
  obtain ⟨record, reads, settled⟩ := handled.closed distinct there hash.symm
  obtain ⟨tracked, rereads, live⟩ := can
  rw [reads] at rereads
  cases rereads
  rw [settled] at live
  cases live

omit gained delivered in
/-- The tables say the same whatever way they came to have everything delivered. -/
theorem same_records (apart : Apart batches) (unique : Unique start)
    (left : Gained settings history batches start one)
    (deliveredLeft : ∀ batch ∈ batches, Delivered settings history batch one)
    (right : Gained settings history batches start other)
    (deliveredRight : ∀ batch ∈ batches, Delivered settings history batch other) :
    SameRecords one other where
  tracked := by
    obtain ⟨change, rows, _, settles⟩ := left.tracked
    obtain ⟨another, otherRows, _, otherSettles⟩ := right.tracked
    rw [rows, otherRows, List.map_map, List.map_map]
    apply List.map_congr_left
    intro row member
    have here : change row ∈ one.tracked := by
      rw [rows]
      exact List.mem_map_of_mem member
    have there : another row ∈ other.tracked := by
      rw [otherRows]
      exact List.mem_map_of_mem member
    rw [Function.comp_apply, Function.comp_apply]
    rcases settles row member with same | ⟨can, seen, now, settled⟩ <;>
      rcases otherSettles row member with otherSame | ⟨otherCan, otherSeen, otherNow, otherSettled⟩
    · rw [same, otherSame]
    · exact (settled_of_delivered left deliveredLeft unique here otherCan otherSeen same).elim
    · exact (settled_of_delivered right deliveredRight unique there can seen otherSame).elim
    · simp only [settled, otherSettled, Store.TrackedRow.core]
  migrations := left.migrations.perm (fun _ => rfl) (fun _ _ => dueMigration_decided apart)
    right.migrations (present_migration left deliveredLeft) (present_migration right deliveredRight)
  deposits := left.deposits.perm (fun _ => rfl) (fun _ _ => dueDeposit_decided apart)
    right.deposits (present_deposit left deliveredLeft) (present_deposit right deliveredRight)
  movements := left.movements.perm (fun _ => rfl) (fun _ _ => dueMovement_decided apart)
    right.movements (present_movement left deliveredLeft) (present_movement right deliveredRight)

omit delivered in
theorem succeeds_start {txHash : String}
    (looked : Store.Succeeds (Store.findTracked store.tracked txHash)) :
    Store.Succeeds (Store.findTracked start.tracked txHash) := by
  obtain ⟨change, rows, columns, settles⟩ := gained.tracked
  have hash : ∀ row, (change row).txHash = row.txHash :=
    fun row => congrArg (fun columns => columns.2.1) (columns row)
  rw [Store.findTracked, rows] at looked
  simp only [List.find?_map, Function.comp_def, hash] at looked
  cases hit : start.tracked.find? (fun row => row.txHash = txHash) with
  | none => exact ⟨none, by rw [Store.findTracked, hit]; rfl⟩
  | some row =>
      rw [hit] at looked
      rcases settles row (List.mem_of_find?_eq_some hit) with same | ⟨⟨tracked, reads, _⟩, _⟩
      · rw [Option.map_some, same] at looked
        rwa [Store.findTracked, hit]
      · exact ⟨some tracked, by rw [Store.findTracked, hit, Store.readOptional, reads]; rfl⟩

omit delivered in
theorem height_fits (apart : Apart batches) (before : Gained settings history batches start earlier)
    (member : batch ∈ batches) {transfer : Chain.Transfer}
    (due : Due settings history batch (.transfer transfer) earlier)
    (missing : Missing settings (.transfer transfer) earlier)
    (confirmed : history.confirms transfer.txHash = true)
    (present : transfer.txHash ∈ store.deposits.map Store.DepositRow.txHash) :
    Height.stored? transfer.height ≠ none := by
  -- The deposit that is there in the end was made for the transfer that misses it, so the height
  -- fits.
  have first := due.first_transfer missing confirmed
  obtain ⟨_, _, absent⟩ := missing
  have new : transfer.txHash ∉ start.deposits.map Store.DepositRow.txHash := by
    intro old
    cases Store.isSome_of_mem absent (before.deposits.subset old)
  obtain ⟨row, hash, dueRow⟩ := gained.deposits.mem present new
  obtain ⟨_, _, other, otherIn, another, height, made, fits, found⟩ := dueRow
  have key : another.txHash = transfer.txHash :=
    (congrArg Store.DepositRow.txHash made).symm.trans hash
  obtain rfl := batch_of_hash apart otherIn member (List.mem_of_find?_eq_some found) due.mem key
  rw [show row.core.txHash = _ from hash, first] at found
  cases found
  rw [fits]
  exact Option.some_ne_none height

theorem not_refused (apart : Apart batches) (before : Gained settings history batches start earlier)
    (lasts : Lasts start earlier) (member : batch ∈ batches) :
    ¬ Refused settings history batch earlier := by
  have same : earlier.tracked.map Store.TrackedRow.txHash =
      store.tracked.map Store.TrackedRow.txHash := before.hashes.trans gained.hashes.symm
  -- Whatever was against a batch at some time would still be there in the end, where it is
  -- delivered.
  rintro (unrecordable | ⟨observed, due, blocked⟩)
  · exact (delivered batch member).movements.not_unrecordable
      (before.registrations.trans gained.registrations.symm) unrecordable
  have handled := (delivered batch member).events observed due.mem
  rcases blocked with ⟨fault, failed⟩ | ⟨untracked, hindered⟩
  · have works : Store.Succeeds (Store.findTracked store.tracked observed.txHash) := by
      rcases handled with ⟨record, looked, _⟩ | ⟨looked, _⟩
      · exact ⟨_, looked⟩
      · exact ⟨_, looked⟩
    exact (lasts.tracked _).works (succeeds_start gained works) fault failed
  rcases handled with ⟨record, looked, _⟩ | ⟨_, passed⟩
  · have present := Store.readOptional_mem looked
    rw [← same] at present
    cases Store.isSome_of_mem untracked present
  cases observed with
  | migration migration =>
      obtain ⟨fault, failed⟩ := hindered
      obtain ⟨found, looked, _⟩ := passed
      exact (lasts.migrations _).works (gained.migrations.succeeds ⟨found, looked⟩) fault failed
  | transfer transfer =>
      obtain ⟨bound, ⟨fault, failed⟩ | ⟨absent, confirmed, misfit⟩⟩ := hindered
      · obtain ⟨found, looked, _⟩ := passed bound
        exact (lasts.deposits _).works (gained.deposits.succeeds ⟨found, looked⟩) fault failed
      · exact height_fits gained apart before member due ⟨untracked, bound, absent⟩ confirmed
          (mem_of_admitted (passed bound) confirmed) misfit
  | other txHash => exact hindered

end Outcome

/-- Consumers that handle some of the batches at the same time, in any order and any number of
times, leave what one consumer leaves that handles them one after the other. -/
theorem concurrent_handling_is_sequential
    {scene : Scene Store (List Chain.Batch) Failure Unit}
    (identified : Identified start.tracked) (unique : Unique start) (apart : Apart batches)
    (reached : (World.shared (List Chain.Batch) history.stable fun _ _ => False).Reaches
      (Handles settings batches) ⟨start, []⟩ scene)
    (finished : ∀ batch ∈ batches, ∃ party ∈ scene.parties,
      batch ∈ party.memory ∧ party.rest = .done (.ok ())) :
    Unique scene.state ∧
    ∀ last result after, Activity.Run (history.steady last) (fun _ => False)
        (forEach (handleBatch settings) batches) start (.done result) after →
      result = .ok () ∧ SameRecords scene.state after := by
  obtain ⟨gained, ended⟩ :=
    gained_of_reached (manners_stable history) And.right identified unique reached
  have delivered : ∀ batch ∈ batches, Delivered settings history batch scene.state := by
    intro batch member
    obtain ⟨party, inScene, inWork, stopped⟩ := finished batch member
    exact ended party inScene (.ok ()) stopped batch inWork
  constructor
  · constructor
    · rw [gained.hashes]
      exact unique.tracked
    · exact gained.migrations.nodup
    · exact gained.deposits.nodup
    · exact gained.movements.nodup
  · -- The sequential run is one of a world with a single party, so both gain from the same batches.
    intro last result after run
    have alone : (World.shared (List Chain.Batch) (history.steady last) fun _ _ => False).Reaches
        (Handles settings batches) ⟨start, []⟩ ⟨after, [⟨batches, .done result⟩]⟩ :=
      run.alone ⟨fun _ => id, rfl⟩
    obtain ⟨gainedAlone, endedAlone⟩ :=
      gained_of_reached (manners_steady history last) And.right identified unique alone
    have outcome := endedAlone _ (.head _) result rfl
    cases result with
    | ok value =>
        exact ⟨rfl, same_records apart unique gained delivered gainedAlone outcome⟩
    | error failure =>
        rcases outcome with cause | ⟨batch, member, earlier, before, lasts, refused⟩
        · exact cause.elim
        · exact (not_refused gained delivered apart before lasts member refused).elim

def laterStamp : Stamp := ⟨⟨List.replicate 32 (Uuid.digit 15), rfl⟩, zeroStamp.time⟩

def laterDeposit : Store.Deposit := { oneDeposit with id := laterStamp.id }

theorem both_miss_the_deposit :
    (World.shared (List Chain.Batch) approving.stable fun _ _ => False).Reaches
      (Handles fromGenesis [bankBound]) ⟨Store.empty, []⟩
      ⟨{ Store.empty with deposits := [laterDeposit.row] },
        [⟨[bankBound], .done (.ok ())⟩, ⟨[bankBound], .done (.ok ())⟩]⟩ := by
  let world := World.shared (List Chain.Batch) approving.stable fun _ _ => False
  let work : Party (List Chain.Batch) Failure Unit :=
    ⟨[bankBound], forEach (handleBatch fromGenesis) [bankBound]⟩
  have first : world.Reaches (Handles fromGenesis [bankBound]) ⟨Store.empty, []⟩
      ⟨Store.empty, [work]⟩ := .single (.join ⟨fun _ => id, rfl⟩)
  have second : world.Reaches (Handles fromGenesis [bankBound]) ⟨Store.empty, []⟩
      ⟨Store.empty, [work, work]⟩ := first.tail (.join ⟨fun _ => id, rfl⟩)
  have untracked := second.answer [] [work]
    (show world.answers _ (.storage (.tracked "T")) _ (.ok none) _ from .inl ⟨trivial, rfl⟩)
  have untracked := untracked.answer [_] []
    (show world.answers _ (.storage (.tracked "T")) _ (.ok none) _ from .inl ⟨trivial, rfl⟩)
  have absent := untracked.answer [] [_]
    (show world.answers _ (.storage (.deposit "T")) _ (.ok none) _ from .inl ⟨trivial, rfl⟩)
  have absent := absent.answer [_] []
    (show world.answers _ (.storage (.deposit "T")) _ (.ok none) _ from .inl ⟨trivial, rfl⟩)
  have confirmed := absent.answer [] [_] (show world.answers _ (.transaction "T") _
    (.ok (some ⟨"T", 1, 0, ""⟩)) _ from ⟨rfl, rfl⟩)
  have confirmed := confirmed.answer [_] [] (show world.answers _ (.transaction "T") _
    (.ok (some ⟨"T", 1, 0, ""⟩)) _ from ⟨rfl, rfl⟩)
  have stamped := confirmed.answer [] [_] (show world.answers _ .stamp _ laterStamp _ from rfl)
  have stamped := stamped.answer [_] [] (show world.answers _ .stamp _ zeroStamp _ from rfl)
  have inserted := stamped.answer [] [_]
    (show world.answers _ (.storage (.addDeposit laterDeposit)) _ (.ok true)
      { Store.empty with deposits := [laterDeposit.row] } from .inl ⟨nofun, rfl⟩)
  have fresh : ∀ row ∈ [laterDeposit.row], row.id ≠ oneDeposit.id.text := by decide
  have refused := inserted.answer [_] []
    (show world.answers _ (.storage (.addDeposit oneDeposit)) _ (.ok false)
      { Store.empty with deposits := [laterDeposit.row] } from .inl ⟨fresh, rfl⟩)
  have recorded := refused.answer [] [_]
    (show world.answers _ (.storage (.registration "a")) _ (.ok none) _ from .inl ⟨trivial, rfl⟩)
  exact recorded.answer [_] []
    (show world.answers _ (.storage (.registration "a")) _ (.ok none) _ from .inl ⟨trivial, rfl⟩)

theorem one_inserts_the_deposit : Activity.Run (approving.steady 0) (fun _ => False)
    (forEach (handleBatch fromGenesis) [bankBound]) Store.empty (.done (.ok ()))
    { Store.empty with deposits := [oneDeposit.row] } := by
  have begun : Activity.Run (approving.steady 0) (fun _ => False)
    (forEach (handleBatch fromGenesis) [bankBound]) Store.empty _ _ := .begin
  have untracked := begun.answer
    (show approving.steady 0 (.storage (.tracked "T")) _ (.ok none) _ from ⟨trivial, rfl⟩)
  have absent := untracked.answer
    (show approving.steady 0 (.storage (.deposit "T")) _ (.ok none) _ from ⟨trivial, rfl⟩)
  have confirmed := absent.answer (show approving.steady 0 (.transaction "T") _
    (.ok (some ⟨"T", 1, 0, ""⟩)) _ from ⟨rfl, rfl⟩)
  have stamped := confirmed.answer (show approving.steady 0 .stamp _ zeroStamp _ from rfl)
  have inserted := stamped.answer
    (show approving.steady 0 (.storage (.addDeposit oneDeposit)) _ (.ok true)
      { Store.empty with deposits := [oneDeposit.row] } from ⟨nofun, rfl⟩)
  exact inserted.answer
    (show approving.steady 0 (.storage (.registration "a")) _ (.ok none) _ from ⟨trivial, rfl⟩)

/-- The deposit of the two is the deposit of the one. -/
theorem two_consumers_leave_one_deposit :
    Unique { Store.empty with deposits := [laterDeposit.row] } ∧
    SameRecords { Store.empty with deposits := [laterDeposit.row] }
      { Store.empty with deposits := [oneDeposit.row] } := by
  have identified : Identified Store.empty.tracked := ⟨.nil, nofun⟩
  have empty : Unique Store.empty := ⟨.nil, .nil, .nil, .nil⟩
  have apart : Apart [bankBound] := List.pairwise_singleton _ _
  obtain ⟨unique, same⟩ := concurrent_handling_is_sequential identified empty apart
    both_miss_the_deposit (by simp)
  exact ⟨unique, (same 0 (.ok ()) _ one_inserts_the_deposit).2⟩

end Consumer

end Settlement
