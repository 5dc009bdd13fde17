import Settlement.Proofs.Consumer.Delivery
import Settlement.Proofs.Consumer.Finality
import Settlement.Proofs.DepositQueue.Leases

/-!
A consumer beside the requests that submit transactions. It looks a hash up among the tracked
transactions, asks the chain and inserts, and it does not look again after the chain has
answered. So what it admits is untracked unless it was submitted in between, and then it is
admitted all the same. A log of lookups, submissions and admissions tells which of them came
first.
-/

namespace Settlement.LateTracking

open Activity Consumer
open DepositQueue (oneDeposit)
open Store (TrackedRow)

inductive Note where
  | looked (txHash : String) (tracked : Bool)
  | submitted (txHash : String)
  /-- A row was added for the hash, which had a tracked row at that moment or had none. -/
  | admitted (txHash : String) (tracked : Bool)
  deriving DecidableEq

structure Watched where
  store : Store
  log : List Note

def tracks (store : Store) (txHash : String) : Bool :=
  store.tracked.any fun row => row.txHash = txHash

inductive Requested : Watched → Watched → Prop where
  | submit {state : Watched} (row : TrackedRow)
      (fresh : ∀ other ∈ state.store.tracked, other.id ≠ row.id) :
      Requested state ⟨{ state.store with tracked := Store.addTracked state.store.tracked row },
        state.log ++ [.submitted row.txHash]⟩
  | revise {state : Watched} (change : TrackedRow → TrackedRow)
      (same : ∀ row, (change row).txHash = row.txHash) :
      Requested state ⟨{ state.store with tracked := state.store.tracked.map change }, state.log⟩

def notes : Request → Store → Store → List Note
  | .storage (.tracked txHash), before, _ => [.looked txHash (tracks before txHash)]
  | .storage (.addDeposit record), before, after =>
      if after.deposits = before.deposits then []
      else [.admitted record.txHash (tracks before record.txHash)]
  | .storage (.addMigration record), before, after =>
      if after.migrations = before.migrations then []
      else [.admitted record.txHash (tracks before record.txHash)]
  | _, _, _ => []

/-- Any number of requests come before every answer. -/
def answers : Answering Watched := fun request before reply after =>
  ∃ between, Relation.ReflTransGen Requested before between ∧
    Finality.told request between.store reply after.store ∧
    after.log = between.log ++ notes request between.store after.store

/-- The hash was looked up in vain, only submissions came after that, and it is tracked by now
exactly if it was one of them. -/
def Overtaken (log : List Note) (txHash : String) (tracked : Bool) : Prop :=
  ∃ before since, log = before ++ .looked txHash false :: since ∧
    (∀ note ∈ since, ∃ other, note = .submitted other) ∧
    (tracked = true ↔ .submitted txHash ∈ since)

def Right (log : List Note) : Prop :=
  ∀ earlier txHash tracked later, log = earlier ++ .admitted txHash tracked :: later →
    Overtaken earlier txHash tracked

structure Waiting (txHash : String) (state : Watched) : Prop where
  right : Right state.log
  overtaken : Overtaken state.log txHash (tracks state.store txHash)

/-- Every row that was added has an entry in the log. -/
structure Logged (start : Store) (state : Watched) : Prop where
  deposits : ∀ row ∈ state.store.deposits,
    row ∈ start.deposits ∨ ∃ tracked, .admitted row.txHash tracked ∈ state.log
  migrations : ∀ row ∈ state.store.migrations,
    row ∈ start.migrations ∨ ∃ tracked, .admitted row.txHash tracked ∈ state.log

theorem Right.snoc {log : List Note} {note : Note} (right : Right log)
    (new : ∀ txHash tracked, note = .admitted txHash tracked → Overtaken log txHash tracked) :
    Right (log ++ [note]) := by
  intro earlier txHash tracked later split
  rcases List.eq_nil_or_concat later with rfl | ⟨middle, last, rfl⟩
  · obtain ⟨same, rest⟩ := List.append_inj' split rfl
    cases rest
    rw [← same]
    exact new txHash tracked rfl
  · have whole : log ++ [note] = (earlier ++ .admitted txHash tracked :: middle) ++ [last] := by
      simpa using split
    exact right earlier txHash tracked middle (List.append_inj' whole rfl).1

section Requests

variable {before after : Watched} {txHash : String} {start : Store}

theorem tracks_addTracked {store : Store} {row : TrackedRow}
    (fresh : ∀ other ∈ store.tracked, other.id ≠ row.id) :
    tracks { store with tracked := Store.addTracked store.tracked row } txHash =
      (tracks store txHash || row.txHash = txHash) := by
  unfold tracks Store.addTracked
  rcases Store.taken_or_free TrackedRow.id TrackedRow.txHash store.tracked row with
    ⟨⟨other, member, same⟩, taken⟩ | ⟨_, taken⟩
  · rw [taken, if_pos rfl]
    have hash := same.resolve_left (fresh other member)
    by_cases here : row.txHash = txHash
    · have present : store.tracked.any (fun row => row.txHash = txHash) = true :=
        List.any_eq_true.mpr ⟨other, member, by simpa [hash] using here⟩
      simp [present]
    · simp [here]
  · rw [taken, if_neg Bool.false_ne_true]
    simp

theorem Requested.right (requested : Requested before after) (right : Right before.log) :
    Right after.log := by
  cases requested with
  | submit row fresh => exact right.snoc nofun
  | revise change same => exact right

theorem Requested.waiting (requested : Requested before after) (waiting : Waiting txHash before) :
    Waiting txHash after := by
  refine ⟨requested.right waiting.right, ?_⟩
  obtain ⟨earlier, since, log, only, tracked⟩ := waiting.overtaken
  cases requested with
  | submit row fresh =>
      refine ⟨earlier, since ++ [.submitted row.txHash], by simp [log], ?_, ?_⟩
      · intro note member
        rcases List.mem_append.mp member with old | new
        · exact only note old
        · exact ⟨row.txHash, List.mem_singleton.mp new⟩
      · rw [tracks_addTracked fresh, Bool.or_eq_true, tracked]
        simp [eq_comm]
  | revise change same =>
      refine ⟨earlier, since, log, only, ?_⟩
      rw [← tracked]
      simp [tracks, List.any_map, Function.comp_def, same]

theorem Logged.onward (logged : Logged start before) (grown : before.log ⊆ after.log)
    (deposits : after.store.deposits = before.store.deposits ∨
      ∃ row, after.store.deposits = before.store.deposits ++ [row] ∧
        ∃ tracked, .admitted row.txHash tracked ∈ after.log)
    (migrations : after.store.migrations = before.store.migrations ∨
      ∃ row, after.store.migrations = before.store.migrations ++ [row] ∧
        ∃ tracked, .admitted row.txHash tracked ∈ after.log) : Logged start after := by
  constructor
  · have old : ∀ row ∈ before.store.deposits,
        row ∈ start.deposits ∨ ∃ tracked, .admitted row.txHash tracked ∈ after.log :=
      fun row member => (logged.deposits row member).imp_right fun ⟨tracked, there⟩ =>
        ⟨tracked, grown there⟩
    rcases deposits with same | ⟨added, same, new⟩
    · rwa [same]
    · rw [same, List.forall_mem_append, List.forall_mem_singleton]
      exact ⟨old, .inr new⟩
  · have old : ∀ row ∈ before.store.migrations,
        row ∈ start.migrations ∨ ∃ tracked, .admitted row.txHash tracked ∈ after.log :=
      fun row member => (logged.migrations row member).imp_right fun ⟨tracked, there⟩ =>
        ⟨tracked, grown there⟩
    rcases migrations with same | ⟨added, same, new⟩
    · rwa [same]
    · rw [same, List.forall_mem_append, List.forall_mem_singleton]
      exact ⟨old, .inr new⟩

theorem Requested.logged (requested : Requested before after) (logged : Logged start before) :
    Logged start after := by
  cases requested with
  | submit row fresh => exact logged.onward (List.subset_append_left _ _) (.inl rfl) (.inl rfl)
  | revise change same => exact logged.onward (List.Subset.refl _) (.inl rfl) (.inl rfl)

theorem kept_by_requests (holds : Watched → Prop)
    (kept : ∀ {before after}, Requested before after → holds before → holds after)
    (passed : Relation.ReflTransGen Requested before after) (held : holds before) :
    holds after := by
  induction passed with
  | refl => exact held
  | tail _ requested ih => exact kept requested ih

end Requests

/-! What the questions about an event do to the log. -/

def Calm : Request → Prop
  | .storage (.addDeposit _) | .storage (.addMigration _) => False
  | _ => True

theorem calm_of_reconciles (request : Request) (reconciles : Reconciles request) :
    Calm request := by
  cases request with
  | storage statement => cases statement <;> trivial
  | _ => trivial

def Quiet : Request → Prop
  | .storage (.migration _) | .storage (.deposit _) | .transaction _ | .stamp => True
  | _ => False

theorem Quiet.silent {request : Request} (quiet : Quiet request) (before after : Store) :
    Finality.Plain request ∧ notes request before after = [] := by
  cases request with
  | storage statement => cases statement <;> first | exact ⟨trivial, rfl⟩ | cases quiet
  | transaction | stamp => exact ⟨trivial, rfl⟩
  | _ => cases quiet

def Inserts (txHash : String) : Request → Prop
  | .storage (.addMigration record) => record.txHash = txHash
  | .storage (.addDeposit record) => record.txHash = txHash
  | _ => False

section Answered

variable {request : Request} {before after : Watched} {reply : request.Reply} {txHash : String}

theorem right_answered (calm : Calm request) (answered : answers request before reply after)
    (right : Right before.log) : Right after.log := by
  obtain ⟨between, passed, _, log⟩ := answered
  have here : Right between.log :=
    kept_by_requests (fun state => Right state.log) Requested.right passed right
  rw [log]
  cases request with
  | storage statement =>
      cases statement with
      | tracked txHash => exact here.snoc nofun
      | addDeposit | addMigration => cases calm
      | _ => simpa only [notes, List.append_nil] using here
  | _ => simpa only [notes, List.append_nil] using here

theorem waiting_answered (quiet : Quiet request) (answered : answers request before reply after)
    (waiting : Waiting txHash before) : Waiting txHash after := by
  obtain ⟨between, passed, told, log⟩ := answered
  have here := kept_by_requests (Waiting txHash) Requested.waiting passed waiting
  obtain ⟨plain, silent⟩ := quiet.silent between.store after.store
  have same := Finality.told_tracked plain told
  rw [silent, List.append_nil] at log
  constructor
  · rw [log]
    exact here.right
  · rw [log, tracks, same]
    exact here.overtaken

theorem right_inserted (inserts : Inserts txHash request)
    (answered : answers request before reply after) (waiting : Waiting txHash before) :
    Right after.log := by
  obtain ⟨between, passed, _, log⟩ := answered
  have here := kept_by_requests (Waiting txHash) Requested.waiting passed waiting
  -- Requests come before the insert, and the log tells what was tracked when it took effect.
  have added : ∀ tracked, tracked = tracks between.store txHash →
      Right (between.log ++ [.admitted txHash tracked]) := by
    rintro tracked rfl
    refine here.right.snoc ?_
    rintro other tracked ⟨⟩
    exact here.overtaken
  rw [log]
  cases request with
  | storage statement =>
      cases statement with
      | addMigration record =>
          obtain rfl := inserts
          simp only [notes]
          split
          · simpa using here.right
          · exact added _ rfl
      | addDeposit record =>
          obtain rfl := inserts
          simp only [notes]
          split
          · simpa using here.right
          · exact added _ rfl
      | _ => cases inserts
  | _ => cases inserts

theorem waiting_looked {found : Option Store.Tracked}
    (answered : answers (.storage (.tracked txHash)) before (.ok found) after)
    (absent : found = none) (right : Right before.log) : Waiting txHash after := by
  have calm : Calm (.storage (.tracked txHash)) := trivial
  refine ⟨right_answered calm answered right, ?_⟩
  obtain ⟨between, _, told, log⟩ := answered
  have looked : Store.findTracked between.store.tracked txHash = .ok none ∧
      after.store = between.store := by
    subst absent
    rcases told with ran | ⟨⟨_, failed⟩, _⟩
    · obtain ⟨reply, same⟩ := Prod.ext_iff.mp ran
      exact ⟨reply.symm, same⟩
    · cases failed
  have untracked : tracks between.store txHash = false := by
    rw [tracks, List.any_eq_false]
    intro row member
    simpa using Store.readOptional_none looked.1 row member
  rw [looked.2, untracked, log]
  exact ⟨between.log, [], by simp [notes, untracked], by simp, by simp⟩

theorem logged_answered {start : Store} (attends : Attends request)
    (answered : answers request before reply after) (logged : Logged start before) :
    Logged start after := by
  obtain ⟨between, passed, told, log⟩ := answered
  have here := kept_by_requests (Logged start) Requested.logged passed logged
  have grown : between.log ⊆ after.log := by
    rw [log]
    exact List.subset_append_left _ _
  -- Of the calls that an event makes only the two inserts add rows, and each of them is noted.
  rcases Finality.told_store told with same | ⟨statement, rfl, ran⟩
  · exact here.onward grown (.inl (by rw [same])) (.inl (by rw [same]))
  · cases statement with
    | tracked | migration | deposit =>
        exact here.onward grown (.inl (by rw [ran]; rfl)) (.inl (by rw [ran]; rfl))
    | settle txHash status message now =>
        have same : after.store.deposits = between.store.deposits ∧
            after.store.migrations = between.store.migrations := by
          rw [ran]
          simp only [Store.Statement.run]
          split <;> exact ⟨rfl, rfl⟩
        exact here.onward grown (.inl same.1) (.inl same.2)
    | addMigration record =>
        rcases Store.run_insertMigration record between.store with ⟨_, kept⟩ | ⟨_, added⟩
        · rw [kept] at ran
          exact here.onward grown (.inl (by rw [ran])) (.inl (by rw [ran]))
        · rw [added] at ran
          have entered : .admitted record.txHash (tracks between.store record.txHash) ∈
              after.log := by simp [log, ran, notes]
          exact here.onward grown (.inl (by rw [ran]))
            (.inr ⟨record.row, by rw [ran], _, entered⟩)
    | addDeposit record =>
        rcases Store.run_insertDeposit record between.store with ⟨_, kept⟩ | ⟨_, added⟩
        · rw [kept] at ran
          exact here.onward grown (.inl (by rw [ran])) (.inl (by rw [ran]))
        · rw [added] at ran
          have entered : .admitted record.txHash (tracks between.store record.txHash) ∈
              after.log := by simp [log, ran, notes]
          exact here.onward grown (.inr ⟨record.row, by rw [ran], _, entered⟩)
            (.inl (by rw [ran]))
    | _ => cases attends

end Answered

/-! From question to question. -/

section Handling

variable {state : Watched} {settings : Settings} {ε α : Type}

def KeepsRight (activity : Activity ε α) (state : Watched) : Prop :=
  activity.Keeps answers (fun _ after => Right after.log) (fun _ after => Right after.log) state

theorem right_of_calm {activity : Activity ε α} (asks : activity.Asks Calm)
    (right : Right state.log) : KeepsRight activity state := by
  induction activity generalizing state with
  | done result => exact right
  | ask request next ih =>
      intro reply after answered
      have step := right_answered asks.1 answered right
      exact ⟨step, ih reply (asks.2 reply) step⟩

theorem right_insert {txHash : String} {statement : Store.Statement}
    (inserts : Inserts txHash (.storage statement)) (waiting : Waiting txHash state) :
    KeepsRight (discard (Consumer.storage statement)) state := by
  refine (keeps_discard _ _).mpr ((keeps_storage _).mpr fun reply after answered => ?_)
  have right := right_inserted inserts answered waiting
  exact ⟨right, right⟩

theorem right_confirmed {txHash : String} {insert : Stamp → Activity Failure Unit}
    (inserts : ∀ stamp state, Waiting txHash state → KeepsRight (insert stamp) state)
    (waiting : Waiting txHash state) :
    KeepsRight (do
      if ← isConfirmed txHash then
        let stamp ← Activity.request .stamp
        insert stamp) state := by
  -- Requests may come while the chain is asked, and the insert follows nevertheless.
  have confirms : (isConfirmed txHash).Keeps answers (fun _ after => Right after.log)
      (fun _ after => Waiting txHash after) state := by
    intro reply asked answered
    have asking : Quiet (.transaction txHash) := trivial
    have still := waiting_answered asking answered waiting
    refine ⟨still.right, ?_⟩
    rcases reply with failure | _ | tx <;> exact still
  refine confirms.bind ?_ fun failure asked waiting => waiting.right
  intro confirmed asked waiting
  cases confirmed with
  | false => exact waiting.right
  | true =>
      intro stamp stamped answered
      have stamping : Quiet .stamp := trivial
      have still := waiting_answered stamping answered waiting
      exact ⟨still.right, inserts stamp stamped still⟩

theorem right_admitObserved {observed : Observed} (waiting : Waiting observed.txHash state) :
    KeepsRight (admitObserved settings observed) state := by
  cases observed with
  | migration migration =>
      intro reply looked answered
      have looking : Quiet (.storage (.migration migration.txHash)) := trivial
      have still := waiting_answered looking answered waiting
      refine ⟨still.right, ?_⟩
      rcases reply with fault | _ | record
      · exact still.right
      · exact right_confirmed (fun stamp state waiting => right_insert rfl waiting) still
      · exact still.right
  | transfer transfer =>
      simp only [admitObserved]
      split
      · intro reply looked answered
        have looking : Quiet (.storage (.deposit transfer.txHash)) := trivial
        have still := waiting_answered looking answered waiting
        refine ⟨still.right, ?_⟩
        rcases reply with fault | _ | record
        · exact still.right
        · refine right_confirmed (fun stamp state waiting => ?_) still
          cases Height.stored? transfer.height with
          | none => exact waiting.right
          | some height => exact right_insert rfl waiting
        · exact still.right
      · exact waiting.right
  | other txHash => exact waiting.right

theorem right_handleObserved (observed : Observed) (right : Right state.log) :
    KeepsRight (handleObserved settings observed) state := by
  intro reply looked answered
  have calm : Calm (.storage (.tracked observed.txHash)) := trivial
  have still := right_answered calm answered right
  refine ⟨still, ?_⟩
  rcases reply with fault | _ | tracked
  · exact still
  · exact right_admitObserved (waiting_looked answered rfl right)
  · exact right_of_calm ((asks_reconcile tracked).mono calm_of_reconciles) still

theorem right_forEach (items : List Observed) (right : Right state.log) :
    KeepsRight (forEach (handleObserved settings) items) state := by
  induction items generalizing state with
  | nil => exact right
  | cons observed rest ih =>
      have first : KeepsRight (handleObserved settings observed) state :=
        right_handleObserved observed right
      exact first.bind (fun _ _ right => ih right) fun _ _ right => right

theorem logged_handleEvents {start : Store} (batch : Chain.Batch) (transfers : List Chain.Transfer)
    (logged : Logged start state) : (handleEvents settings batch transfers).Keeps answers
      (fun _ after => Logged start after) (fun _ _ => True) state := by
  have asks := asks_handleEvents settings batch transfers
  let keeps (before after : Watched) : Prop := Logged start before → Logged start after
  have kept : (handleEvents settings batch transfers).Keeps answers
      (fun _ after => Logged start after) (fun _ after => keeps state after) state := by
    apply asks.keeps
    · exact fun _ => id
    · exact fun first second => second ∘ first
    · exact logged_answered
    · exact fun toBefore step => step (toBefore logged)
  exact kept.mono fun _ _ _ => trivial

end Handling

/-- Every row that a consumer adds has an entry in the log. Its hash was looked up in vain
before, and after that there was time for submissions alone: the hash was tracked when it was
admitted if and only if it was submitted in that time. -/
theorem tracked_is_admitted_iff_submitted_meanwhile {settings : Settings} {batch : Chain.Batch}
    {transfers : List Chain.Transfer} {start : Store} {rest : Activity Failure Unit}
    {state : Watched}
    (run : Run answers
      (fun other => ∃ batch transfers, other = handleEvents settings batch transfers)
      (handleEvents settings batch transfers) ⟨start, []⟩ rest state) :
    Logged start state ∧ Right state.log := by
  let right (state : Watched) : Prop := Right state.log
  have unlogged : Logged start ⟨start, []⟩ := ⟨fun _ => .inl, fun _ => .inl⟩
  have unadmitted : right ⟨start, []⟩ := by
    rintro (_ | _) txHash tracked later ⟨⟩
  constructor
  · have kept : Logged start state ∧ _ :=
      run.keeps (fun _ _ => id) unlogged (logged_handleEvents batch transfers unlogged) (by
        rintro other ⟨batch, transfers, rfl⟩ state logged
        exact logged_handleEvents batch transfers logged)
    exact kept.1
  · have kept : right state ∧ _ :=
      run.keeps (fun _ _ => id) unadmitted (right_forEach _ unadmitted) (by
        rintro other ⟨batch, transfers, rfl⟩ state right
        exact right_forEach _ right)
    exact kept.1

def late : TrackedRow := { Finality.submitted with txHash := "T" }

def looked : Watched := ⟨Store.empty, [.looked "T" false]⟩

def overtaken : Watched :=
  ⟨{ Store.empty with tracked := [late] }, [.looked "T" false, .submitted "T"]⟩

def admitted : Watched :=
  ⟨{ Store.empty with tracked := [late], deposits := [oneDeposit.row] },
    [.looked "T" false, .submitted "T", .admitted "T" true]⟩

/-- The transfer is submitted while the chain is asked, and it gets its deposit. -/
theorem tracked_transfer_gets_deposit : ∃ rest,
    Run answers (fun other => ∃ batch transfers, other = handleEvents fromGenesis batch transfers)
      (handleEvents fromGenesis bankBound (bankBound.transfers fromGenesis.contract))
      ⟨Store.empty, []⟩ rest admitted ∧
    Logged Store.empty admitted ∧ Right admitted.log := by
  have looks : answers (.storage (.tracked "T")) ⟨Store.empty, []⟩ (.ok none) looked :=
    ⟨_, .refl, .inl rfl, rfl⟩
  have misses : answers (.storage (.deposit "T")) looked (.ok none) looked :=
    ⟨_, .refl, .inl rfl, rfl⟩
  have confirms : answers (.transaction "T") looked (.ok (some ⟨"T", 1, 0, ""⟩)) overtaken :=
    ⟨_, .single (.submit late nofun), rfl, rfl⟩
  have stamps : answers .stamp overtaken zeroStamp overtaken := ⟨_, .refl, rfl, rfl⟩
  have inserts : answers (.storage (.addDeposit oneDeposit)) overtaken (.ok true) admitted :=
    ⟨_, .refl, .inl rfl, rfl⟩
  have begun : Run answers
      (fun other => ∃ batch transfers, other = handleEvents fromGenesis batch transfers)
      (handleEvents fromGenesis bankBound (bankBound.transfers fromGenesis.contract))
      ⟨Store.empty, []⟩ _ _ := .begin
  have confirmed := ((begun.answer looks).answer misses).answer confirms
  have run := (confirmed.answer stamps).answer inserts
  exact ⟨_, run, tracked_is_admitted_iff_submitted_meanwhile run⟩

end Settlement.LateTracking
