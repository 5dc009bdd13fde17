import Mathlib.Logic.Relation
import Settlement.Proofs.DepositQueue.Cycle

/-!
No deposit is stranded. One attempt is followed among all others, through every answer it may get
and every point at which it may be cut off. A claim stands no longer than it was granted for, an
attempt that fails gives its claim back, and the loader and the claim go by the same rows.
-/

namespace Settlement

namespace Store

def DepositRow.IsWritten (row : DepositRow) : Prop :=
  ∃ (deposit : Deposit) (claim : Option Int),
    row = { deposit.row with claimedUntil := claim.map .number }

def Written (store : Store) : Prop := ∀ row ∈ store.deposits, row.IsWritten

/-- Loading gives those deposits, each once, for which a claim is granted, and no others. -/
def LoadsWhatIsGranted (store : Store) (now : Int) : Prop :=
  ∃ ids, ((Statement.pending now).run store).1 = .ok ids ∧ ids.Nodup ∧ ∀ id limit,
    (id ∈ ids → ∃ deposit, ((Statement.claim id now limit).run store).1 = .ok (some deposit)) ∧
    (id ∉ ids → ((Statement.claim id now limit).run store).1 = .ok none)

/-- The deposit is loaded, and who claims it gets it. -/
def Ready (store : Store) (id : Uuid) (now : Int) : Prop :=
  (∃ ids, ((Statement.pending now).run store).1 = .ok ids ∧ id ∈ ids) ∧
    ∀ limit, ∃ deposit, ((Statement.claim id now limit).run store).1 = .ok (some deposit)

section Written

variable {store : Store} {row : DepositRow} {id : Uuid} {now : Int}

theorem DepositRow.IsWritten.legible (written : row.IsWritten) : row.Legible := by
  obtain ⟨deposit, claim, rfl⟩ := written
  have reads : DepositRow.read { deposit.row with claimedUntil := claim.map .number } =
      .ok deposit := deposit.read_row
  refine ⟨⟨deposit, reads⟩, ?_⟩
  rw [DepositRow.uuid, (DepositRow.read_ok _ reads).1]
  rfl

theorem DepositRow.IsWritten.revise (written : row.IsWritten) (statement : Statement) :
    (statement.revise row).IsWritten := by
  obtain ⟨deposit, claim, rfl⟩ := written
  cases statement with
  | claim id now limit =>
      simp only [Statement.revise]
      split
      · exact ⟨deposit, some limit, rfl⟩
      · exact ⟨deposit, claim, rfl⟩
  | advance id source target now =>
      simp only [Statement.revise]
      split
      · exact ⟨{ deposit with status := target, updated := now }, none, rfl⟩
      · exact ⟨deposit, claim, rfl⟩
  | release id =>
      simp only [Statement.revise]
      split
      · exact ⟨deposit, none, rfl⟩
      · exact ⟨deposit, claim, rfl⟩
  | _ => exact ⟨deposit, claim, rfl⟩

theorem written_run (statement : Statement) (written : store.Written) :
    Written (statement.run store).2 := by
  have revised : ∀ row ∈ store.deposits.map statement.revise, row.IsWritten := by
    intro row member
    obtain ⟨old, there, rfl⟩ := List.mem_map.mp member
    exact (written old there).revise statement
  rcases deposits_grow statement store with same | ⟨record, _, _, grown⟩
  · rw [Written, same]
    exact revised
  · rw [Written, grown]
    intro row member
    rcases List.mem_append.mp member with old | new
    · exact revised row old
    · rw [List.mem_singleton.mp new]
      exact ⟨record, none, rfl⟩

end Written

end Store

namespace DepositQueue

open Store (DepositRow)

section Loading

variable {store : Store} {row : DepositRow} {id : Uuid} {now : Int}

theorem loads_what_is_granted (keyed : store.Keyed) (written : store.Written) (now : Int) :
    store.LoadsWhatIsGranted now := by
  have named : ∀ row ∈ store.deposits, row.id = row.uuid.text :=
    fun row member => (written row member).legible.written
  refine ⟨_, pendingIds_ok named, pendingRows_uuids keyed named, fun id limit => ⟨?_, ?_⟩⟩
  · intro loaded
    obtain ⟨row, member, rfl⟩ := List.mem_map.mp loaded
    obtain ⟨there, pending⟩ := mem_pendingRows.mp member
    obtain ⟨deposit, reads⟩ := (written row there).legible.reads
    exact ⟨deposit, claim_row keyed there (named row there) pending reads⟩
  · intro absent
    have unclaimable : store.deposits.find? (DepositRow.isClaimable id now) = none := by
      apply List.find?_eq_none.mpr
      intro row there claimable
      rw [DepositRow.isClaimable, Bool.and_eq_true, decide_eq_true_eq] at claimable
      obtain ⟨same, pending⟩ := claimable
      have own : row.uuid = id := Uuid.text_injective ((named row there).symm.trans same)
      exact absent (List.mem_map.mpr ⟨row, mem_pendingRows.mpr ⟨there, pending⟩, own⟩)
    simp only [Store.Statement.run, Store.claim, unclaimable, Store.readOptional]

theorem ready_of_pending (keyed : store.Keyed) (written : store.Written)
    (found : store.deposit? id = some row) (pending : row.isPending now = true) :
    store.Ready id now := by
  obtain ⟨ids, loads, _, granted⟩ := loads_what_is_granted keyed written now
  have loaded : id ∈ ids := by
    by_contra absent
    have claimable : row.isClaimable id now = true := by
      rw [DepositRow.isClaimable, pending, Store.deposit?_id found]
      simp
    exact Store.claim_not_refused found claimable ((granted id now).2 absent)
  exact ⟨⟨ids, loads, loaded⟩, fun limit => (granted id limit).1 loaded⟩

end Loading

theorem bmod_le (value range : Nat) : Int.bmod value range ≤ value := by
  have below : (value : Int) % range ≤ value := by exact_mod_cast Nat.mod_le value range
  unfold Int.bmod
  dsimp only
  split <;> omega

theorem claimEnd?_le {now limit : Int} {ttl : Span} (ends : claimEnd? now ttl = some limit) :
    limit ≤ now + ttl.milliseconds := by
  have within : clockMilliseconds ttl ≤ ttl.milliseconds := bmod_le _ _
  unfold claimEnd? at ends
  dsimp only at ends
  split at ends
  · cases ends
    omega
  · cases ends

/-- A run of which nothing is promised. -/
def unpromised : Terms := ⟨False, False, False⟩

def AddsDeposits (before after : Store) : Prop :=
  ∀ row ∈ after.deposits, row.id ∈ before.deposits.map DepositRow.id ∨
    ∃ deposit : Store.Deposit, row = deposit.row

def Serves (before after : System) : Prop :=
  Step unpromised before after ∧ AddsDeposits before.store after.store

theorem Serves.sound {before after : System} (serves : Serves before after)
    (keyed : before.store.Keyed) (written : before.store.Written) :
    after.store.Keyed ∧ after.store.Written := by
  obtain ⟨step, adds⟩ := serves
  cases step with
  | tick | start | die | orphan => exact ⟨keyed, written⟩
  | answer chosen asks answered _ =>
      rcases answers_store answered with same | ⟨statement, _, ran⟩
      · rw [same]
        exact ⟨keyed, written⟩
      · rw [ran]
        exact ⟨Store.keyed_run statement keyed, Store.written_run statement written⟩
  | @elsewhere after added grown rekeyed =>
      refine ⟨rekeyed, fun row member => ?_⟩
      rw [grown] at member
      rcases List.mem_append.mp member with old | new
      · exact written row old
      · have distinct := rekeyed
        rw [Store.Keyed, grown, List.map_append, List.nodup_append] at distinct
        have fresh : row.id ∉ before.store.deposits.map DepositRow.id :=
          fun taken => distinct.2.2 _ taken _ (List.mem_map_of_mem new) rfl
        have there : row ∈ after.deposits := by
          rw [grown]
          exact List.mem_append_right _ new
        obtain ⟨deposit, rfl⟩ := (adds row there).resolve_left fresh
        exact ⟨deposit, none, rfl⟩

/-- One attempt among all others, and what has happened to its deposit since it was begun. -/
structure Followed where
  around : System
  /-- What it has left to do, unless its worker has died. -/
  rest : Option (Activity Failure Bool)
  /-- The time at which it began, from the moment its claim is granted on. -/
  claimedAt : Option Int
  faulted : Bool
  disturbed : Prop
  /-- The claims that others have put in the row since its own one was granted. -/
  newer : List Store.Cell

def claimedAfter (claimedAt : Option Int) : (request : Request) → request.Reply → Option Int
  | .storage (.claim _ now _), .ok (some _) => some now
  | _, _ => claimedAt

def faultedAfter (faulted : Bool) : (request : Request) → request.Reply → Bool
  | .storage statement, .error _ => faulted || !statement.isRead
  | _, _ => faulted

def newerAfter (newer : List Store.Cell) : (request : Request) → request.Reply → List Store.Cell
  | .storage (.claim ..), .ok (some _) => []
  | _, _ => newer

def claim? (store : Store) (id : Uuid) : Option Store.Cell :=
  (store.deposit? id).bind DepositRow.claimedUntil

def placed (id : Uuid) (before after : Store) : List Store.Cell :=
  if claim? after id = claim? before id then [] else (claim? after id).toList

def Followed.begin (ttl : Span) (id : Uuid) (system : System) : Followed where
  around := system
  rest := some (process ttl id)
  claimedAt := none
  faulted := false
  disturbed := False
  newer := []

def Followed.told (followed : Followed) (accepts : Bool) (request : Request)
    (reply : request.Reply) (rest : Activity Failure Bool) (after : Store) : Followed where
  around := { followed.around with
    store := after
    accepted := acceptedAfter followed.around.accepted accepts request }
  rest := some rest
  claimedAt := claimedAfter followed.claimedAt request reply
  faulted := faultedAfter followed.faulted request reply
  disturbed := followed.disturbed
  newer := newerAfter followed.newer request reply

def Followed.passed (id : Uuid) (followed : Followed) (after : System) : Followed :=
  { followed with
    around := after
    disturbed := followed.disturbed ∨
      after.store.deposit? id ≠ followed.around.store.deposit? id
    newer := placed id followed.around.store after.store ++ followed.newer }

/-- The attempt at the deposit gets an answer or is cut off, or the others take a step. -/
inductive Follows (id : Uuid) : Followed → Followed → Prop where
  | answer {before : Followed} {request : Request} {next : request.Reply → Activity Failure Bool}
      {reply : request.Reply} {after : Store} {accepts : Bool}
      (asks : before.rest = some (.ask request next))
      (answered :
        answers unpromised before.around.clock request before.around.store reply after)
      (hears : Hears unpromised.reliable accepts request reply) :
      Follows id before (before.told accepts request reply (next reply) after)
  | cut {before : Followed} : Follows id before { before with rest := none }
  | orphan {before : Followed} {message : Bank.Request}
      {next : Except Bank.Failure Unit → Activity Failure Bool}
      (calls : before.rest = some (.ask (.notifyBank message) next)) :
      Follows id before
        { before with
          around := { before.around with accepted := message.id :: before.around.accepted }
          rest := none }
  | others {before : Followed} {after : System} (serves : Serves before.around after) :
      Follows id before (before.passed id after)

def Followed.Shows (followed : Followed) (system : System) : Prop :=
  ∃ own attempts, system = { followed.around with attempts } ∧
    attempts.Perm (own ++ followed.around.attempts) ∧
    own.map Attempt.rest = followed.rest.toList

section Coverage

variable {followed : Followed} {system after : System}

theorem shows_begin (ttl : Span) (id : Uuid) (system : System) :
    (Followed.begin ttl id system).Shows
      { system with attempts := .begin ttl id :: system.attempts } :=
  ⟨[.begin ttl id], _, rfl, .refl _, rfl⟩

theorem chosen_cases {attempts own around others : List Attempt} {attempt : Attempt}
    (split : attempts.Perm (own ++ around)) (single : own.length ≤ 1)
    (chosen : attempts.Perm (attempt :: others)) :
    own = [attempt] ∧ others.Perm around ∨
      ∃ left, around.Perm (attempt :: left) ∧ others.Perm (own ++ left) := by
  -- The chosen attempt is the own one or one of those around it.
  have whole := chosen.symm.trans split
  rcases List.mem_append.mp (whole.mem_iff.mp List.mem_cons_self) with mine | other
  · left
    obtain ⟨only, rfl⟩ := List.length_eq_one_iff.mp
      (Nat.le_antisymm single (List.length_pos_of_mem mine))
    obtain rfl := List.mem_singleton.mp mine
    exact ⟨rfl, whole.cons_inv⟩
  · right
    obtain ⟨first, last, rfl⟩ := List.append_of_mem other
    refine ⟨first ++ last, List.perm_middle, ?_⟩
    have moved : (own ++ (first ++ attempt :: last)).Perm (attempt :: (own ++ (first ++ last))) :=
      (List.perm_middle.append_left own).trans List.perm_middle
    exact (whole.trans moved).cons_inv

theorem Followed.Shows.step (shows : followed.Shows system) (id : Uuid)
    (serves : Serves system after) : ∃ later, Follows id followed later ∧ later.Shows after := by
  obtain ⟨own, attempts, rfl, split, rests⟩ := shows
  obtain ⟨step, adds⟩ := serves
  have single : own.length ≤ 1 := by
    rw [← List.length_map Attempt.rest, rests]
    exact Option.length_toList_le
  -- A step is the attempt's own if it is the chosen one, and otherwise a step of the others.
  cases step with
  | tick later => exact ⟨_, .others ⟨.tick later, adds⟩, own, attempts, rfl, split, rests⟩
  | start ttl other =>
      refine ⟨_, .others ⟨.start ttl other, adds⟩, own, _, rfl, ?_, rests⟩
      exact (split.cons _).trans List.perm_middle.symm
  | elsewhere grown keyed =>
      exact ⟨_, .others ⟨.elsewhere grown keyed, adds⟩, own, attempts, rfl, split, rests⟩
  | @answer attempt others request next reply store accepts chosen asks answered hears =>
      rcases chosen_cases split single chosen with ⟨rfl, left⟩ | ⟨left, around, rest⟩
      · have asking : followed.rest = some (.ask request next) := by
          rw [← asks]
          exact Option.toList_eq_singleton_iff.mp rests.symm
        exact ⟨_, .answer asking answered hears, [attempt.told request reply (next reply)], _, rfl,
          left.cons _, rfl⟩
      · refine ⟨_, .others ⟨.answer around asks answered hears, adds⟩, own, _, rfl, ?_, rests⟩
        exact (rest.cons _).trans List.perm_middle.symm
  | die chosen spared =>
      rcases chosen_cases split single chosen with ⟨rfl, left⟩ | ⟨left, around, others⟩
      · exact ⟨_, .cut, [], _, rfl, left, rfl⟩
      · exact ⟨_, .others ⟨.die around spared, adds⟩, own, _, rfl, others, rests⟩
  | orphan chosen calls lost =>
      rcases chosen_cases split single chosen with ⟨rfl, left⟩ | ⟨left, around, others⟩
      · obtain ⟨message, next, asks, rfl⟩ := calls
        have asking : followed.rest = some (.ask (.notifyBank message) next) := by
          rw [← asks]
          exact Option.toList_eq_singleton_iff.mp rests.symm
        exact ⟨_, .orphan asking, [], _, rfl, left, rfl⟩
      · exact ⟨_, .others ⟨.orphan around calls lost, adds⟩, own, _, rfl, others, rests⟩

/-- So every run from the attempt's beginning on can be followed. -/
theorem served_is_followed (ttl : Span) (id : Uuid)
    (served : Relation.ReflTransGen Serves
      { system with attempts := .begin ttl id :: system.attempts } after) :
    ∃ followed, Relation.ReflTransGen (Follows id) (.begin ttl id system) followed ∧
      followed.Shows after := by
  induction served with
  | refl => exact ⟨_, .refl, shows_begin ttl id system⟩
  | tail _ serves ih =>
      obtain ⟨middle, follows, shows⟩ := ih
      obtain ⟨later, next, shows⟩ := shows.step id serves
      exact ⟨later, follows.tail next, shows⟩

end Coverage

/-- It writes nothing before it gives its claim back or moves the deposit on, it ends with that,
and it fails only if it has given the claim back or if that write fails. -/
def GivesBack (id : Uuid) : Activity Failure Bool → Prop
  | .done result => ∃ notified, result = .ok notified
  | .ask (.storage (.release other)) next =>
      other = id ∧ ∀ reply, ∃ failure, next reply = .done (.error failure)
  | .ask (.storage (.advance other _ _ _)) next =>
      other = id ∧ ∀ reply, ∃ result, next reply = .done result ∧
        ∀ moved, reply = .ok moved → ∃ notified, result = .ok notified
  | .ask (.storage statement) next =>
      statement.isRead = true ∧ ∀ reply, GivesBack id (next reply)
  | .ask _ next => ∀ reply, GivesBack id (next reply)

section GivingBack

variable {id : Uuid}

theorem givesBack_notifyBank {next : Except Failure Unit → Activity Failure Bool}
    (address amount : String) (fails : ∀ failure, GivesBack id (next (.error failure)))
    (succeeds : GivesBack id (next (.ok ()))) :
    GivesBack id ((notifyBank id address amount).attempt next) := by
  unfold notifyBank Directory.resolveActive
  split
  · exact fails (.notRegistered address)
  · refine ⟨rfl, fun reply => ?_⟩
    rcases reply with fault | _ | registration
    · exact fails (.storage fault)
    · exact fails (.notRegistered address)
    · intro verdict
      cases verdict with
      | error failure => exact fails (.bank failure)
      | ok accepted => exact succeeds

theorem givesBack_proceed (deposit : Store.Deposit) :
    GivesBack id (proceed id (some deposit)) := by
  apply givesBack_notifyBank
  · intro failure
    refine ⟨rfl, fun reply => ?_⟩
    cases reply with
    | error fault => exact ⟨.storage fault, rfl⟩
    | ok released => exact ⟨failure, rfl⟩
  · intro stamp
    refine ⟨rfl, fun reply => ?_⟩
    cases reply with
    | error fault => exact ⟨.error (.storage fault), rfl, nofun⟩
    | ok moved => exact ⟨.ok true, rfl, fun _ _ => ⟨true, rfl⟩⟩

theorem GivesBack.read {statement : Store.Statement}
    {next : Request.Reply (.storage statement) → Activity Failure Bool}
    (gives : GivesBack id (.ask (.storage statement) next)) (read : statement.isRead = true)
    (reply : Request.Reply (.storage statement)) : GivesBack id (next reply) := by
  cases statement <;> first | exact gives.2 reply | cases read

theorem GivesBack.write {statement : Store.Statement}
    {next : Request.Reply (.storage statement) → Activity Failure Bool}
    (gives : GivesBack id (.ask (.storage statement) next)) (writes : statement.isRead = false) :
    (statement = .release id ∨
      ∃ source target time, statement = .advance id source target time) ∧
    ∀ reply, ∃ result, next reply = .done result ∧ ∀ failure, result = .error failure →
      statement = .release id ∨ ∃ fault, reply = .error fault := by
  cases statement with
  | release other =>
      obtain ⟨rfl, ends⟩ := gives
      refine ⟨.inl rfl, fun reply => ?_⟩
      obtain ⟨failure, ended⟩ := ends reply
      exact ⟨_, ended, fun _ _ => .inl rfl⟩
  | advance other source target time =>
      obtain ⟨rfl, ends⟩ := gives
      refine ⟨.inr ⟨source, target, time, rfl⟩, fun reply => ?_⟩
      obtain ⟨result, ended, moves⟩ := ends reply
      refine ⟨result, ended, fun failure failed => ?_⟩
      cases reply with
      | error fault => exact .inr ⟨fault, rfl⟩
      | ok moved =>
          obtain ⟨notified, told⟩ := moves moved rfl
          rw [told] at failed
          cases failed
  | _ =>
      rw [gives.1] at writes
      cases writes

end GivingBack

def Followed.Bounded (id : Uuid) (limit : Int) (followed : Followed) : Prop :=
  ∀ cell, claim? followed.around.store id = some cell →
    cell = .number limit ∨ cell ∈ followed.newer

/-- Where the attempt is, with the row that the deposit had when it was begun. -/
inductive Stage (ttl : Span) (id : Uuid) (origin : Option DepositRow) (followed : Followed) :
    Prop where
  | fresh (left : followed.rest = some (process ttl id)) (unclaimed : followed.claimedAt = none)
      (clean : followed.faulted = false)
      (kept : ¬ followed.disturbed → followed.around.store.deposit? id = origin)
  | timed {now : Int}
      (left : followed.rest = some ((claimEnd? now ttl).elim (.fail .claimRange) fun limit =>
        storage (.claim id now limit) >>= proceed id))
      (unclaimed : followed.claimedAt = none) (clean : followed.faulted = false)
      (kept : ¬ followed.disturbed → followed.around.store.deposit? id = origin)
  | refused {result : Except Failure Bool} (left : followed.rest = some (.done result))
      (unclaimed : followed.claimedAt = none)
  | holding {now limit : Int} {rest : Activity Failure Bool} (left : followed.rest = some rest)
      (gives : GivesBack id rest) (ends : claimEnd? now ttl = some limit)
      (claimed : followed.claimedAt = some now) (clean : followed.faulted = false)
      (bounded : followed.Bounded id limit)
      (kept : ¬ followed.disturbed → ∃ row, origin = some row ∧
        row.status = Named.text DepositStatus.inserted ∧
        followed.around.store.deposit? id =
          some { row with claimedUntil := some (.number limit) })
  | ended {now limit : Int} {result : Except Failure Bool}
      (left : followed.rest = some (.done result)) (ends : claimEnd? now ttl = some limit)
      (claimed : followed.claimedAt = some now) (bounded : followed.Bounded id limit)
      (kept : ¬ followed.disturbed → followed.faulted = false →
        ∀ failure, result = .error failure → ∃ row, origin = some row ∧
          row.status = Named.text DepositStatus.inserted ∧
          followed.around.store.deposit? id = some { row with claimedUntil := none })
  | dead (left : followed.rest = none)
      (bounded : ∀ now, followed.claimedAt = some now →
        ∃ limit, claimEnd? now ttl = some limit ∧ followed.Bounded id limit)

section Stages

variable {ttl : Span} {id : Uuid} {origin : Option DepositRow} {before after followed : Followed}
  {accepts : Bool}

theorem Stage.bounded {now : Int} (stage : Stage ttl id origin followed)
    (claimed : followed.claimedAt = some now) :
    ∃ limit, claimEnd? now ttl = some limit ∧ followed.Bounded id limit := by
  cases stage with
  | fresh _ unclaimed | timed _ unclaimed | refused _ unclaimed =>
      rw [unclaimed] at claimed
      cases claimed
  | holding _ _ ends same _ bounded | ended _ ends same bounded =>
      obtain rfl := Option.some.inj (same.symm.trans claimed)
      exact ⟨_, ends, bounded⟩
  | dead _ bounded => exact bounded now claimed

/-- An attempt that has failed after its claim, without a failing write of its own and without
others at the row, has left the row as it was but for the claim, which is gone. -/
theorem Stage.restored {failure : Failure} (stage : Stage ttl id origin followed)
    (failed : followed.rest = some (.done (.error failure))) (claimed : followed.claimedAt ≠ none)
    (clean : followed.faulted = false) (alone : ¬ followed.disturbed) :
    ∃ row, origin = some row ∧ row.status = Named.text DepositStatus.inserted ∧
      followed.around.store.deposit? id = some { row with claimedUntil := none } := by
  cases stage with
  | fresh _ unclaimed | timed _ unclaimed | refused _ unclaimed => exact (claimed unclaimed).elim
  | holding left gives =>
      obtain rfl := Option.some.inj (left.symm.trans failed)
      obtain ⟨notified, wrong⟩ := gives
      cases wrong
  | ended left _ _ _ kept =>
      cases left.symm.trans failed
      exact kept alone clean failure rfl
  | dead left =>
      rw [left] at failed
      cases failed

theorem claim_asks (now limit : Int) :
    storage (.claim id now limit) >>= proceed id =
      .ask (.storage (.claim id now limit)) fun reply =>
        match reply with
        | .error fault => .fail (.storage fault)
        | .ok granted => proceed id granted := by
  change Activity.ask _ _ = _
  congr 1
  funext reply
  cases reply <;> rfl

theorem Stage.granted {now limit : Int} {deposit : Store.Deposit}
    (keyed : before.around.store.Keyed) (ends : claimEnd? now ttl = some limit)
    (clean : before.faulted = false)
    (kept : ¬ before.disturbed → before.around.store.deposit? id = origin)
    (granted : ((Store.Statement.claim id now limit).run before.around.store).1 =
      .ok (some deposit)) :
    Stage ttl id origin (before.told accepts (.storage (.claim id now limit)) (.ok (some deposit))
      (proceed id (some deposit))
      ((Store.Statement.claim id now limit).run before.around.store).2) := by
  obtain ⟨row, found, claimable⟩ := Store.claim_granted keyed granted
  have claimed := Store.deposit?_run (.claim id now limit) found
  rw [Store.Statement.revise, if_pos claimable] at claimed
  refine .holding rfl (givesBack_proceed deposit) ends rfl clean ?_ fun alone => ?_
  · intro cell standing
    simp only [Followed.told, claim?, claimed, Option.bind_some] at standing
    exact .inl (Option.some.inj standing).symm
  · refine ⟨row, (kept alone).symm.trans found, ?_, claimed⟩
    rw [DepositRow.isClaimable, Bool.and_eq_true] at claimable
    exact (DepositRow.isPending_iff.mp claimable.2).1

theorem claim?_freed {statement : Store.Statement} {store : Store} {cell : Store.Cell}
    (write : statement = .release id ∨
      ∃ source target time, statement = .advance id source target time)
    (standing : claim? (statement.run store).2 id = some cell) : claim? store id = some cell := by
  have rows : (statement.run store).2.deposits = store.deposits.map statement.revise := by
    rcases write with rfl | ⟨source, target, time, rfl⟩ <;> rfl
  have frees : ∀ row, (statement.revise row).claimedUntil = none ∨
      statement.revise row = row := by
    intro row
    rcases write with rfl | ⟨source, target, time, rfl⟩ <;> simp only [Store.Statement.revise] <;>
      split <;> simp
  have found : Store.deposit? (statement.run store).2 id =
      (store.deposit? id).map statement.revise := by
    simp only [Store.deposit?, rows, List.find?_map, Function.comp_def, Store.revise_id]
  rw [claim?, found] at standing
  rw [claim?]
  cases there : store.deposit? id with
  | none =>
      rw [there] at standing
      cases standing
  | some row =>
      rw [there, Option.map_some, Option.bind_some] at standing
      rcases frees row with freed | same
      · rw [freed] at standing
        cases standing
      · rw [same] at standing
        exact standing

theorem Stage.written {now limit : Int} {statement : Store.Statement}
    {next : Request.Reply (.storage statement) → Activity Failure Bool}
    {reply : Request.Reply (.storage statement)} {after : Store}
    (gives : GivesBack id (.ask (.storage statement) next)) (writes : statement.isRead = false)
    (ends : claimEnd? now ttl = some limit) (claimed : before.claimedAt = some now)
    (bounded : before.Bounded id limit)
    (kept : ¬ before.disturbed → ∃ row, origin = some row ∧
      row.status = Named.text DepositStatus.inserted ∧
      before.around.store.deposit? id = some { row with claimedUntil := some (.number limit) })
    (answered : answers unpromised before.around.clock (.storage statement)
      before.around.store reply after) :
    Stage ttl id origin (before.told accepts (.storage statement) reply (next reply) after) := by
  obtain ⟨write, finishes⟩ := gives.write writes
  obtain ⟨result, ended, fails⟩ := finishes reply
  have sameTime : claimedAfter before.claimedAt (.storage statement) reply = some now := by
    rcases write with rfl | ⟨source, target, time, rfl⟩ <;> exact claimed
  have sameNewer : newerAfter before.newer (.storage statement) reply = before.newer := by
    rcases write with rfl | ⟨source, target, time, rfl⟩ <;> rfl
  refine .ended (by rw [← ended]; rfl) ends sameTime ?_ ?_
  · intro cell standing
    simp only [Followed.told, sameNewer] at standing ⊢
    rcases answers_store answered with rfl | ⟨_, same, rfl⟩
    · exact bounded cell standing
    · cases same
      exact bounded cell (claim?_freed write standing)
  · -- As no write of its own has failed, the attempt can only have failed by its release.
    intro alone clean failure failed
    obtain ⟨row, same, waiting, found⟩ := kept alone
    refine ⟨row, same, waiting, ?_⟩
    cases reply with
    | error fault => simp [Followed.told, faultedAfter, writes] at clean
    | ok value =>
        rcases fails failure failed with rfl | ⟨fault, wrong⟩
        · rcases answered with ran | ⟨_, ⟨fault, wrong⟩, _⟩
          · obtain ⟨_, rfl⟩ := Prod.ext_iff.mp ran
            have released := Store.deposit?_release found
            exact released
          · cases wrong
        · cases wrong

theorem Followed.told_read {statement : Store.Statement} (read : statement.isRead = true)
    (reply : Request.Reply (.storage statement)) (rest : Activity Failure Bool) (after : Store) :
    (followed.told accepts (.storage statement) reply rest after).claimedAt = followed.claimedAt ∧
      (followed.told accepts (.storage statement) reply rest after).faulted = followed.faulted ∧
      (followed.told accepts (.storage statement) reply rest after).newer = followed.newer := by
  refine ⟨?_, ?_, ?_⟩
  · cases statement <;> first | rfl | cases read
  · cases reply <;> simp [told, faultedAfter, read]
  · cases statement <;> first | rfl | cases read

theorem Stage.answered {request : Request} {next : request.Reply → Activity Failure Bool}
    {reply : request.Reply} {after : Store} (stage : Stage ttl id origin before)
    (keyed : before.around.store.Keyed) (asks : before.rest = some (.ask request next))
    (answered : answers unpromised before.around.clock request before.around.store reply after)
    (accepts : Bool) :
    Stage ttl id origin (before.told accepts request reply (next reply) after) := by
  -- Reads and answers from outside leave the claim alone; the first write of its own ends it.
  cases stage with
  | fresh left unclaimed clean kept =>
      rw [process_asks] at left
      cases left.symm.trans asks
      obtain ⟨rfl, rfl⟩ := answered
      exact .timed rfl unclaimed clean kept
  | @timed now left unclaimed clean kept =>
      cases ends : claimEnd? now ttl with
      | none =>
          rw [ends] at left
          cases left.symm.trans asks
      | some limit =>
          rw [ends, Option.elim_some, claim_asks] at left
          cases left.symm.trans asks
          match reply with
          | .error fault => exact .refused rfl unclaimed
          | .ok none => exact .refused rfl unclaimed
          | .ok (some deposit) =>
              rcases answered with ran | ⟨_, ⟨fault, failed⟩, _⟩
              · obtain ⟨granted, rfl⟩ := Prod.ext_iff.mp ran
                exact .granted keyed ends clean kept granted.symm
              · cases failed
  | refused left => cases left.symm.trans asks
  | holding left gives ends claimed clean bounded kept =>
      obtain rfl := Option.some.inj (left.symm.trans asks)
      cases request with
      | storage statement =>
          cases read : statement.isRead with
          | true =>
              obtain rfl := answers_read read answered
              obtain ⟨sameTime, sameFault, sameNewer⟩ := before.told_read read reply (next reply) _
              refine .holding rfl (gives.read read reply) ends (sameTime.trans claimed)
                (sameFault.trans clean) ?_ kept
              intro cell standing
              rw [sameNewer]
              exact bounded cell standing
          | false => exact .written gives read ends claimed bounded kept answered
      | clock =>
          obtain ⟨_, rfl⟩ := answered
          exact .holding rfl (gives reply) ends claimed clean bounded kept
      | _ =>
          obtain rfl := answered
          exact .holding rfl (gives reply) ends claimed clean bounded kept
  | ended left => cases left.symm.trans asks
  | dead left => cases left.symm.trans asks

theorem Followed.Bounded.passed {limit : Int} (bounded : before.Bounded id limit)
    (system : System) : (before.passed id system).Bounded id limit := by
  intro cell standing
  -- A claim that was not there before has been noted as a newer one.
  by_cases same : claim? system.store id = claim? before.around.store id
  · exact (bounded cell (same ▸ standing)).imp_right (List.mem_append_right _)
  · right
    apply List.mem_append_left
    rw [placed, if_neg same]
    exact Option.mem_toList.mpr standing

theorem Stage.passed (stage : Stage ttl id origin before) (system : System) :
    Stage ttl id origin (before.passed id system) := by
  -- Once others have changed the row nothing is promised of it, and until then it is the same.
  have untouched : ¬ (before.passed id system).disturbed → ¬ before.disturbed ∧
      system.store.deposit? id = before.around.store.deposit? id := by
    intro alone
    exact ⟨fun others => alone (.inl others), not_not.mp fun changed => alone (.inr changed)⟩
  cases stage with
  | fresh left unclaimed clean kept =>
      refine .fresh left unclaimed clean fun alone => ?_
      obtain ⟨still, same⟩ := untouched alone
      exact same.trans (kept still)
  | timed left unclaimed clean kept =>
      refine .timed left unclaimed clean fun alone => ?_
      obtain ⟨still, same⟩ := untouched alone
      exact same.trans (kept still)
  | refused left unclaimed => exact .refused left unclaimed
  | holding left gives ends claimed clean bounded kept =>
      refine .holding left gives ends claimed clean (bounded.passed system) fun alone => ?_
      obtain ⟨still, same⟩ := untouched alone
      obtain ⟨row, origin, waiting, found⟩ := kept still
      exact ⟨row, origin, waiting, same.trans found⟩
  | ended left ends claimed bounded kept =>
      refine .ended left ends claimed (bounded.passed system) fun alone clean failure failed => ?_
      obtain ⟨still, same⟩ := untouched alone
      obtain ⟨row, origin, waiting, found⟩ := kept still clean failure failed
      exact ⟨row, origin, waiting, same.trans found⟩
  | dead left bounded =>
      refine .dead left fun now claimed => ?_
      obtain ⟨limit, ends, bounded⟩ := bounded now claimed
      exact ⟨limit, ends, bounded.passed system⟩

/-- What holds at every point on the way of an attempt. -/
structure Followed.Sound (ttl : Span) (id : Uuid) (origin : Option DepositRow)
    (followed : Followed) : Prop where
  keyed : followed.around.store.Keyed
  written : followed.around.store.Written
  stage : Stage ttl id origin followed

theorem Follows.sound (follows : Follows id before after)
    (sound : before.Sound ttl id origin) : after.Sound ttl id origin := by
  cases follows with
  | @answer request next reply store accepts asks answered _ =>
      have stage := sound.stage.answered sound.keyed asks answered accepts
      rcases answers_store answered with rfl | ⟨statement, _, rfl⟩
      · exact ⟨sound.keyed, sound.written, stage⟩
      · exact ⟨Store.keyed_run statement sound.keyed, Store.written_run statement sound.written,
          stage⟩
  | cut | orphan => exact ⟨sound.keyed, sound.written, .dead rfl fun _ => sound.stage.bounded⟩
  | others serves =>
      obtain ⟨keyed, written⟩ := serves.sound sound.keyed sound.written
      exact ⟨keyed, written, sound.stage.passed _⟩

theorem sound_follows (follows : Relation.ReflTransGen (Follows id) before after)
    (sound : before.Sound ttl id origin) : after.Sound ttl id origin := by
  induction follows with
  | refl => exact sound
  | tail _ step ih => exact step.sound ih

theorem sound_serves {start system : System} (served : Relation.ReflTransGen Serves start system)
    (keyed : start.store.Keyed) (written : start.store.Written) :
    system.store.Keyed ∧ system.store.Written := by
  induction served with
  | refl => exact ⟨keyed, written⟩
  | tail _ step ih => exact step.sound ih.1 ih.2

end Stages

/-- However many workers there are and whatever happens to them, an attempt strands no deposit. If
it fails after its claim without a failing write, and nobody else has changed the row meanwhile,
then the row is as it was before but without a claim, so the deposit is ready at once. If it gets
no further than its claim, or anywhere else, then a deposit that still waits is ready at every
time beyond the attempt's own, unless a newer claim stands. And at all times exactly those
deposits are loaded for which a claim is granted. -/
theorem no_deposit_is_stranded {start began : System} {ttl : Span} {id : Uuid}
    {followed : Followed} (idle : start.Idle) (written : start.store.Written)
    (served : Relation.ReflTransGen Serves start began)
    (follows : Relation.ReflTransGen (Follows id) (.begin ttl id began) followed) :
    let store := followed.around.store
    (∀ failure, followed.rest = some (.done (.error failure)) → followed.claimedAt ≠ none →
      followed.faulted = false → ¬ followed.disturbed →
      ∃ row, began.store.deposit? id = some row ∧
        store.deposit? id = some { row with claimedUntil := none } ∧
        ∀ time, store.Ready id time) ∧
    (∀ now row, followed.claimedAt = some now → store.deposit? id = some row →
      row.status = Named.text DepositStatus.inserted → ∀ time, now + ttl.milliseconds < time →
      store.Ready id time ∨ ∃ limit, .number limit ∈ followed.newer ∧
        row.claimedUntil = some (.number limit) ∧ time ≤ limit) ∧
    ∀ time, store.LoadsWhatIsGranted time := by
  intro store
  obtain ⟨keyed, initial⟩ := sound_serves served idle.keyed written
  obtain ⟨keyed, written, stage⟩ : followed.Sound ttl id (began.store.deposit? id) :=
    sound_follows follows ⟨keyed, initial, .fresh rfl rfl rfl fun _ => rfl⟩
  refine ⟨?_, ?_, loads_what_is_granted keyed written⟩
  · intro failure failed claimed clean alone
    obtain ⟨row, origin, waiting, found⟩ := stage.restored failed claimed clean alone
    refine ⟨row, origin, found, fun time => ready_of_pending keyed written found ?_⟩
    rw [DepositRow.isPending_iff]
    exact ⟨waiting, nofun⟩
  · intro now row claimed found waiting time later
    obtain ⟨limit, ends, bounded⟩ := stage.bounded claimed
    have least := claimEnd?_le ends
    by_cases pending : row.isPending time = true
    · exact .inl (ready_of_pending keyed written found pending)
    · right
      rw [DepositRow.isPending_iff, not_and] at pending
      obtain ⟨cell, standing, stands⟩ : ∃ cell, row.claimedUntil = some cell ∧
          ¬ cell.isBelow time = true := by simpa using pending waiting
      have named : claim? store id = some cell := by rw [claim?, found, Option.bind_some, standing]
      -- The own claim is over by now, so the one that stands was put there later.
      rcases bounded cell named with rfl | newer
      · exact (stands (by simpa [Store.Cell.isBelow] using by omega)).elim
      · obtain ⟨deposit, claim, rfl⟩ := written row (List.mem_of_find?_eq_some found)
        obtain ⟨number, rfl, rfl⟩ := Option.map_eq_some_iff.mp standing
        exact ⟨number, newer, standing, by simpa [Store.Cell.isBelow] using stands⟩

theorem attempts_at_one_deposit : ∃ failed dead : Followed,
    Relation.ReflTransGen (Follows zeroStamp.id)
      (.begin (.ofSeconds 60) zeroStamp.id oneWaits) failed ∧
    Relation.ReflTransGen (Follows zeroStamp.id)
      (.begin (.ofSeconds 60) zeroStamp.id oneWaits) dead ∧
    (failed.rest = some (.done (.error (.bank .transport))) ∧ failed.claimedAt = some 0 ∧
      failed.faulted = false ∧ failed.disturbed = False) ∧
    dead.rest = none ∧ dead.claimedAt = some 0 ∧ dead.newer = [] ∧
    dead.around.store.deposits =
      [{ oneDeposit.row with claimedUntil := some (.number 60000) }] := by
  have ends : claimEnd? 0 (.ofSeconds 60) = some 60000 := by decide +kernel
  have begun : Relation.ReflTransGen (Follows zeroStamp.id)
    (.begin (.ofSeconds 60) zeroStamp.id oneWaits) _ := .refl
  have timed := begun.tail (.answer (congrArg some (process_asks _ _))
    (show answers _ _ .clock _ (0 : Int) _ from ⟨rfl, rfl⟩) (show Hears _ false _ _ from trivial))
  rw [ends] at timed
  have claimed := timed.tail (.answer rfl (Or.inl (oneDeposit_claimed (by rfl) rfl).symm)
    (show Hears _ false _ _ from trivial))
  have found := claimed.tail (.answer rfl (Or.inl (oneAccount_found (by rfl)).symm)
    (show Hears _ false _ _ from trivial))
  have refused := found.tail (.answer rfl
    (show answers _ _ (.notifyBank _) _ (.error .transport) _ from rfl)
    (show Hears _ false _ _ from fun _ => rfl))
  have released := refused.tail (.answer rfl (Or.inl rfl) (show Hears _ false _ _ from trivial))
  exact ⟨_, _, released, claimed.tail .cut, ⟨rfl, rfl, rfl, rfl⟩, rfl, rfl, rfl, rfl⟩

/-- The row is back to what it was, or its claim is over after a minute. -/
theorem interrupted_deposit_is_ready : ∃ failed dead : Followed,
    failed.rest = some (.done (.error (.bank .transport))) ∧
    failed.around.store.deposit? zeroStamp.id = some oneDeposit.row ∧
    (∀ time, failed.around.store.Ready zeroStamp.id time) ∧
    dead.rest = none ∧ dead.around.store.Held zeroStamp.id 60000 ∧
    ∀ time, 60000 < time → dead.around.store.Ready zeroStamp.id time := by
  obtain ⟨failed, dead, fails, dies, ⟨ended, claimed, clean, alone⟩, lost, standing, none_newer,
    rows⟩ := attempts_at_one_deposit
  have written : oneWaits.store.Written := by
    intro row member
    exact ⟨oneDeposit, none, List.mem_singleton.mp member⟩
  have waits : oneWaits.store.deposit? zeroStamp.id = some oneDeposit.row := by
    simp [Store.deposit?, oneWaits, oneDeposit, Store.Deposit.row]
  obtain ⟨restored, _, _⟩ := no_deposit_is_stranded oneWaits_idle written .refl fails
  obtain ⟨_, freed, _⟩ := no_deposit_is_stranded oneWaits_idle written .refl dies
  obtain ⟨row, origin, back, ready⟩ := restored _ ended (by simp [claimed]) clean (by simp [alone])
  cases waits.symm.trans origin
  refine ⟨failed, dead, ended, back, ready, lost, oneDeposit_held rows, fun time later => ?_⟩
  obtain ⟨row, found, waiting, _⟩ := oneDeposit_held rows
  have beyond : (0 : Int) + (Span.ofSeconds 60).milliseconds < time := by
    simpa [Span.ofSeconds, Span.milliseconds] using later
  rcases freed 0 row standing found waiting time beyond with ready | ⟨_, newer, _⟩
  · exact ready
  · rw [none_newer] at newer
    cases newer

end DepositQueue

end Settlement
