import Settlement.Proofs.DepositQueue.Attempts
import Settlement.Proofs.Store.Readable

/-!
A worker that nobody disturbs. Its attempt at a deposit that waits comes to an end that the row,
the registrations and the bank tell, and changes no other row.
-/

namespace Settlement

namespace Store

def DepositRow.uuid (row : DepositRow) : Uuid := (Uuid.ofText? row.id).getD .zero

/-- The row can be read, and its id has the form in which ids are written. -/
structure DepositRow.Legible (row : DepositRow) : Prop where
  reads : Succeeds row.read
  written : row.id = row.uuid.text

theorem DepositRow.Legible.number {row : DepositRow} (legible : row.Legible) :
    ∃ n, row.height = .number n := by
  obtain ⟨deposit, reads⟩ := legible.reads
  simp only [DepositRow.read, bind_ok] at reads
  obtain ⟨_, _, height, readsHeight, _⟩ := reads
  cases cell : row.height <;> rw [cell] at readsHeight <;> cases readsHeight
  exact ⟨_, rfl⟩

/-- What the queue relies on in the tables that it works with. -/
structure Legible (store : Store) : Prop where
  keyed : store.Keyed
  deposits : ∀ row ∈ store.deposits, row.Legible
  registrations : ∀ row ∈ store.registrations, Succeeds row.read

theorem Cell.isBelow_mono {cell : Cell} {now later : Int} (below : cell.isBelow now = true)
    (passed : now ≤ later) : cell.isBelow later = true := by
  cases cell with
  | number value =>
      simp only [Cell.isBelow, decide_eq_true_eq] at below ⊢
      omega
  | real value =>
      simp only [Cell.isBelow, decide_eq_true_eq] at below ⊢
      rw [← Rat.not_le] at below ⊢
      exact fun reached => below (Rat.le_trans (Rat.intCast_le_intCast.mpr passed) reached)
  | text value => cases below

theorem DepositRow.isPending_iff {row : DepositRow} {now : Int} : row.isPending now = true ↔
    row.status = Named.text DepositStatus.inserted ∧
      ∀ limit, row.claimedUntil = some limit → limit.isBelow now = true := by
  simp [DepositRow.isPending, Option.all_eq_true]

theorem DepositRow.isPending_mono {row : DepositRow} {now later : Int}
    (pending : row.isPending now = true) (passed : now ≤ later) : row.isPending later = true := by
  rw [isPending_iff] at pending ⊢
  exact ⟨pending.1, fun limit held => Cell.isBelow_mono (pending.2 limit held) passed⟩

theorem newest_eq_none {rows : List RegistrationRow} : newest rows = none ↔ rows = [] := by
  cases rows with
  | nil => simp [newest]
  | cons row rest =>
      cases last : newest rest with
      | none => simp [newest, last]
      | some other =>
          by_cases later : row.created < other.created <;> simp [newest, last, later]

end Store

namespace DepositQueue

open Store (DepositRow RegistrationRow)

/-- What a lone worker meets. The bank's answer depends on nothing but the request. -/
structure Surroundings where
  bank : Bank.Request → Except Bank.Failure Unit
  /-- The time at each question, in milliseconds. -/
  clock : Nat → Int
  stamp : Nat → Stamp
  elsewhere : (request : Request) → request.Reply

structure Progress where
  store : Store
  asked : Nat
  sent : List Bank.Request
  deriving DecidableEq

def Progress.start (store : Store) : Progress := ⟨store, 0, []⟩

/-- Deposits have changed one by one, and the bank has had more requests. -/
def Progress.moved (progress : Progress) (change : DepositRow → DepositRow) (asked : Nat)
    (requests : List Bank.Request) : Progress where
  store := { progress.store with deposits := progress.store.deposits.map change }
  asked
  sent := progress.sent ++ requests

theorem Progress.keyed_moved {progress : Progress} {change : DepositRow → DepositRow}
    (keyed : progress.store.Keyed) (same : ∀ row, (change row).id = row.id) (asked : Nat)
    (requests : List Bank.Request) : (progress.moved change asked requests).store.Keyed := by
  have ids : (progress.store.deposits.map change).map DepositRow.id =
      progress.store.deposits.map DepositRow.id := by
    rw [List.map_map]
    exact List.map_congr_left fun row _ => same row
  rw [Store.Keyed, moved, ids]
  exact keyed

theorem Progress.moved_moved (progress : Progress) (first second : DepositRow → DepositRow)
    (asked later : Nat) (requests more : List Bank.Request) :
    (progress.moved first asked requests).moved second later more =
      progress.moved (second ∘ first) later (requests ++ more) := by
  simp only [moved, List.map_map, List.append_assoc]

namespace Surroundings

variable (around : Surroundings)

def answer : (request : Request) → StateM Progress request.Reply
  | .storage statement => fun progress =>
      ((statement.run progress.store).1,
        { progress with store := (statement.run progress.store).2, asked := progress.asked + 1 })
  | .notifyBank request => fun progress =>
      (around.bank request,
        { progress with asked := progress.asked + 1, sent := progress.sent ++ [request] })
  | .clock => fun progress =>
      (around.clock progress.asked, { progress with asked := progress.asked + 1 })
  | .stamp => fun progress =>
      (around.stamp progress.asked, { progress with asked := progress.asked + 1 })
  | request => fun progress =>
      (around.elsewhere request, { progress with asked := progress.asked + 1 })

def run {ε α : Type} (activity : Activity ε α) (progress : Progress) : Except ε α × Progress :=
  activity.run around.answer progress

/-- No clock reading is before that of the load, and every claim has an end. -/
structure Steady (ttl : Span) : Prop where
  onward : ∀ look, around.clock 0 ≤ around.clock look
  inRange : ∀ look, (claimEnd? (around.clock look) ttl).isSome = true

variable {around} {ε α β : Type} {progress : Progress}

theorem run_ask {request : Request} {next : request.Reply → Activity ε α} :
    around.run (.ask request next) progress =
      around.run (next (around.answer request progress).1) (around.answer request progress).2 :=
  rfl

theorem run_attempt (first : Activity ε α) (next : Except ε α → Activity ε β) :
    around.run (first.attempt next) progress =
      around.run (next (around.run first progress).1) (around.run first progress).2 := by
  induction first generalizing progress with
  | done result => rfl
  | ask request answer ih => exact ih _

theorem run_bind {first : Activity ε α} {value : α} {after : Progress}
    (ran : around.run first progress = (.ok value, after)) (next : α → Activity ε β) :
    around.run (first >>= next) progress = around.run (next value) after := by
  induction first generalizing progress with
  | done result =>
      cases ran
      rfl
  | ask request answer ih => exact ih _ ran

theorem run_mapFailure {δ : Type} (view : ε → δ) (activity : Activity ε α) :
    around.run (activity.mapFailure view) progress =
      ((around.run activity progress).1.mapError view, (around.run activity progress).2) := by
  induction activity generalizing progress with
  | done result => cases result <;> rfl
  | ask request answer ih => exact ih _

theorem run_storage {statement : Store.Statement} {value : statement.Reply}
    (view : Store.Fault → ε) (ok : (statement.run progress.store).1 = .ok value) :
    around.run (Activity.storage view statement) progress =
      (.ok value, { progress with
        store := (statement.run progress.store).2, asked := progress.asked + 1 }) := by
  rw [Activity.storage, run_ask]
  simp only [answer]
  rw [ok]
  rfl

end Surroundings

/-- The bank account of the active registration that was created last; an empty address has no
account, whatever the table has for it. -/
def account? (registrations : List RegistrationRow) (address : String) : Option Uuid :=
  if address.isEmpty then none
  else match Store.latestActiveRegistration registrations address with
    | .ok (some registration) => some registration.bankAccount
    | _ => none

def request? (registrations : List RegistrationRow) (row : DepositRow) : Option Bank.Request :=
  (account? registrations row.fromAddress).map fun account => ⟨row.uuid, account, row.amount⟩

def verdict (bank : Bank.Request → Except Bank.Failure Unit)
    (registrations : List RegistrationRow) (row : DepositRow) : Except Failure Unit :=
  match request? registrations row with
  | none => .error (.notRegistered row.fromAddress)
  | some request => (bank request).mapError .bank

def Ends (row after : DepositRow) : Except Failure Unit → Prop
  | .ok () => ∃ time : Timestamp, after =
      { row with
        status := Named.text DepositStatus.actionComplete
        claimedUntil := none
        updated := time.stored }
  | .error _ => after.status = Named.text DepositStatus.inserted ∧
      after = { row with claimedUntil := none }

theorem Ends.id {row after : DepositRow} {result : Except Failure Unit}
    (ends : Ends row after result) : after.id = row.id := by
  cases result with
  | error failure => rw [ends.2]
  | ok accepted =>
      obtain ⟨time, rfl⟩ := ends
      rfl

section Registrations

variable {registrations : List RegistrationRow}

theorem account?_isSome (readable : ∀ row ∈ registrations, Store.Succeeds row.read)
    (address : String) : (account? registrations address).isSome = true ↔
      address ≠ "" ∧ ∃ row ∈ registrations, row.address = address ∧ row.active = true := by
  unfold account?
  by_cases empty : address.isEmpty = true
  · rw [if_pos empty]
    simp [String.isEmpty_iff.mp empty]
  · rw [if_neg empty]
    have named : address ≠ "" := fun same => empty (String.isEmpty_iff.mpr same)
    have active : (∃ row ∈ registrations, row.address = address ∧ row.active = true) ↔
        Store.newest (registrations.filter fun row => row.address = address && row.active) ≠
          none := by
      simp [Store.newest_eq_none]
    rw [active]
    obtain ⟨found, reads⟩ := Store.succeeds_newest readable
      fun row => row.address = address && row.active
    rw [Store.latestActiveRegistration, reads]
    cases latest : Store.newest
        (registrations.filter fun row => row.address = address && row.active) with
    | none =>
        rw [latest] at reads
        cases reads
        simp
    | some row =>
        rw [latest] at reads
        cases read : row.read with
        | error fault => simp [Store.readOptional, read, Except.map] at reads
        | ok registration =>
            simp only [Store.readOptional, read, Except.map, Except.ok.injEq] at reads
            subst reads
            simp [named]

end Registrations

section Attempts

variable (around : Surroundings) {progress : Progress}

theorem run_resolveActive
    (readable : ∀ row ∈ progress.store.registrations, Store.Succeeds row.read)
    (address : String) : ∃ asked,
      around.run ((Directory.resolveActive address).mapFailure Failure.storage) progress =
        (.ok (account? progress.store.registrations address), { progress with asked }) := by
  unfold Directory.resolveActive account?
  by_cases empty : address.isEmpty = true
  · rw [if_pos empty, if_pos empty]
    exact ⟨progress.asked, rfl⟩
  · rw [if_neg empty, if_neg empty]
    obtain ⟨found, reads⟩ := Store.succeeds_newest readable
      fun row => row.address = address && row.active
    have asks : around.run (Activity.storage id (.activeRegistration address)) progress =
        (.ok found, { progress with asked := progress.asked + 1 }) :=
      Surroundings.run_storage id reads
    refine ⟨progress.asked + 1, ?_⟩
    rw [Surroundings.run_mapFailure, Surroundings.run_bind asks, Store.latestActiveRegistration,
      reads]
    cases found <;> rfl

theorem run_notifyBank (row : DepositRow)
    (readable : ∀ row ∈ progress.store.registrations, Store.Succeeds row.read) :
    ∃ asked, around.run (notifyBank row.uuid row.fromAddress row.amount) progress =
      (verdict around.bank progress.store.registrations row,
        { progress with
          asked
          sent := progress.sent ++ (request? progress.store.registrations row).toList }) := by
  obtain ⟨asked, resolved⟩ := run_resolveActive around readable row.fromAddress
  rw [notifyBank, Surroundings.run_bind resolved]
  unfold verdict request?
  cases account? progress.store.registrations row.fromAddress with
  | none =>
      refine ⟨asked, ?_⟩
      rw [Option.map_none, Option.toList_none, List.append_nil]
      rfl
  | some account =>
      refine ⟨asked + 1, ?_⟩
      let request : Bank.Request := ⟨row.uuid, account, row.amount⟩
      have calls : around.run (Activity.request (ε := Failure) (.notifyBank request))
          { progress with asked } = (.ok (around.bank request),
            { progress with asked := asked + 1, sent := progress.sent ++ [request] }) := rfl
      simp only [Option.map_some, Option.toList_some]
      rw [Surroundings.run_bind calls]
      cases around.bank request <;> rfl

theorem claim_row {store : Store} {row : DepositRow} {now limit : Int} {deposit : Store.Deposit}
    (keyed : store.Keyed) (member : row ∈ store.deposits) (written : row.id = row.uuid.text)
    (pending : row.isPending now = true) (reads : row.read = .ok deposit) :
    ((Store.Statement.claim row.uuid now limit).run store).1 = .ok (some deposit) := by
  have claimable : row.isClaimable row.uuid now = true := by
    rw [DepositRow.isClaimable, pending, ← written]
    simp
  have found : store.deposits.find? (DepositRow.isClaimable row.uuid now) = some row := by
    cases hit : store.deposits.find? (DepositRow.isClaimable row.uuid now) with
    | none => exact absurd claimable (List.find?_eq_none.mp hit row member)
    | some other =>
        have same := List.find?_some hit
        rw [DepositRow.isClaimable, Bool.and_eq_true, decide_eq_true_eq, ← written] at same
        rw [keyed.inj (List.mem_of_find?_eq_some hit) member same.1]
  simp only [Store.Statement.run, Store.claim, found, Store.readOptional, reads, Except.map]

def replaced (id : String) (after row : DepositRow) : DepositRow :=
  if row.id = id then after else row

theorem replaced_id {id : String} {after : DepositRow} (same : after.id = id) (row : DepositRow) :
    (replaced id after row).id = row.id := by
  unfold replaced
  split
  · rename_i named
    rw [same, named]
  · rfl

theorem revise_twice {store : Store} {row after : DepositRow} (first second : Store.Statement)
    (keyed : store.Keyed) (member : row ∈ store.deposits)
    (becomes : second.revise (first.revise row) = after)
    (spared : ∀ other : DepositRow, other.id ≠ row.id →
      second.revise (first.revise other) = other) :
    (store.deposits.map first.revise).map second.revise =
      store.deposits.map (replaced row.id after) := by
  rw [List.map_map]
  apply List.map_congr_left
  intro other there
  unfold replaced
  split
  · rename_i same
    rw [keyed.inj there member same]
    exact becomes
  · rename_i differ
    exact spared other differ

section Claimed

variable {store : Store} {row : DepositRow} (keyed : store.Keyed) (member : row ∈ store.deposits)
  (written : row.id = row.uuid.text)

include keyed member written

theorem release_claimed (now limit : Int) :
    ((Store.Statement.release row.uuid).run
        ((Store.Statement.claim row.uuid now limit).run store).2).2 =
      { store with deposits :=
          store.deposits.map (replaced row.id { row with claimedUntil := none }) } := by
  rw [← revise_twice (.claim row.uuid now limit) (.release row.uuid) keyed member]
  · rfl
  · simp only [Store.Statement.revise]
    split <;> simp
  · intro other foreign
    simp [Store.Statement.revise, Store.DepositRow.isClaimable, ← written, foreign]

theorem advance_claimed (now limit : Int) (time : Timestamp)
    (waits : row.status = Named.text DepositStatus.inserted) :
    ((Store.Statement.advance row.uuid .inserted .actionComplete time).run
        ((Store.Statement.claim row.uuid now limit).run store).2).2 =
      { store with deposits := store.deposits.map (replaced row.id
          { row with
            status := Named.text DepositStatus.actionComplete
            claimedUntil := none
            updated := time.stored }) } := by
  rw [← revise_twice (.claim row.uuid now limit)
    (.advance row.uuid .inserted .actionComplete time) keyed member]
  · rfl
  · simp only [Store.Statement.revise, Store.DepositRow.isAt]
    split <;> simp [← written, waits]
  · intro other foreign
    simp [Store.Statement.revise, Store.DepositRow.isClaimable, Store.DepositRow.isAt, ← written,
      foreign]

end Claimed

/-- An attempt at a deposit that waits ends with the verdict, the row ends as the verdict says, and
no other row changes. -/
theorem run_process {ttl : Span} {row : DepositRow} (steady : around.Steady ttl)
    (keyed : progress.store.Keyed) (member : row ∈ progress.store.deposits)
    (legible : row.Legible) (pending : row.isPending (around.clock 0) = true)
    (readable : ∀ row ∈ progress.store.registrations, Store.Succeeds row.read) :
    ∃ after asked, Ends row after (verdict around.bank progress.store.registrations row) ∧
      around.run (process ttl row.uuid) progress =
        ((verdict around.bank progress.store.registrations row).map fun _ => true,
          progress.moved (replaced row.id after) asked
            (request? progress.store.registrations row).toList) := by
  obtain ⟨deposit, reads⟩ := legible.reads
  have waits := DepositRow.isPending_mono pending (steady.onward progress.asked)
  obtain ⟨limit, ends⟩ := Option.isSome_iff_exists.mp (steady.inRange progress.asked)
  have granted : ((Store.Statement.claim row.uuid (around.clock progress.asked) limit).run
      progress.store).1 = .ok (some deposit) :=
    claim_row keyed member legible.written waits reads
  let claimed : Progress :=
    { store := ((Store.Statement.claim row.uuid (around.clock progress.asked) limit).run
        progress.store).2
      asked := progress.asked + 2
      sent := progress.sent }
  have claims : around.run (storage (.claim row.uuid (around.clock progress.asked) limit))
      { progress with asked := progress.asked + 1 } = (.ok (some deposit), claimed) :=
    Surroundings.run_storage Failure.storage granted
  have notifies : ∃ asked, around.run (notifyBank row.uuid row.fromAddress row.amount) claimed =
      (verdict around.bank progress.store.registrations row,
        { claimed with
          asked
          sent := progress.sent ++ (request? progress.store.registrations row).toList }) :=
    run_notifyBank around row readable
  obtain ⟨asked, notified⟩ := notifies
  have same := row.read_ok reads
  rw [process_asks, Surroundings.run_ask]
  simp only [Surroundings.answer]
  rw [ends, Option.elim_some, Surroundings.run_bind claims, proceed, ← same.2.2.1,
    ← same.2.2.2.1, Surroundings.run_attempt, notified]
  rw [DepositRow.isPending_iff] at waits
  -- After a failure the claim is released, and after the bank's acceptance the row moves on.
  cases verdict around.bank progress.store.registrations row with
  | error failure =>
      refine ⟨{ row with claimedUntil := none }, asked + 1, ⟨waits.1, rfl⟩, ?_⟩
      rw [Progress.moved,
        ← release_claimed keyed member legible.written (around.clock progress.asked) limit]
      rfl
  | ok accepted =>
      refine ⟨_, asked + 2, ⟨(around.stamp asked).time, rfl⟩, ?_⟩
      rw [Progress.moved, ← advance_claimed keyed member legible.written
        (around.clock progress.asked) limit (around.stamp asked).time waits.1]
      rfl

end Attempts

end DepositQueue

end Settlement
