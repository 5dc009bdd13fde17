import Settlement.DepositQueue
import Settlement.Proofs.Activity.Safety
import Settlement.Proofs.Store.Deposits

/-!
Any number of workers at the queue of deposits. Each attempt at a deposit runs on its own,
all of them share the tables, the clock and the bank, and they take turns in any order.
`Orderly` is what one attempt keeps to whatever it is told.
-/

namespace Settlement.DepositQueue

structure Attempt where
  id : Uuid
  rest : Activity Failure Bool
  /-- The end of its claim, from the moment the claim is granted to the last write. -/
  lease : Option Int
  /-- It has heard that the bank accepted its request. -/
  notified : Bool

def leaseAfter (lease : Option Int) : (request : Request) → request.Reply → Option Int
  | .storage (.claim _ _ limit), .ok (some _) => some limit
  | .storage (.release _), _ | .storage (.advance ..), _ => none
  | _, _ => lease

def notifiedAfter (notified : Bool) : (request : Request) → request.Reply → Bool
  | .notifyBank _, .ok () => true
  | _, _ => notified

/-- An acceptance counts when its sender stops waiting, be that with an answer or without one,
and also if the bank gets to the request only after that. -/
def acceptedAfter (accepted : List Uuid) (accepts : Bool) : Request → List Uuid
  | .notifyBank message => if accepts then message.id :: accepted else accepted
  | _ => accepted

/-- What a worker may hear of the bank's verdict on its request. -/
def Hears (reliable : Prop) (accepts : Bool) : (request : Request) → request.Reply → Prop
  | .notifyBank _, .ok () => accepts = true
  | .notifyBank _, .error _ => reliable → accepts = false
  | _, _ => True

def Attempt.begin (ttl : Span) (id : Uuid) : Attempt := ⟨id, process ttl id, none, false⟩

def Attempt.told (attempt : Attempt) (request : Request) (reply : request.Reply)
    (rest : Activity Failure Bool) : Attempt where
  id := attempt.id
  rest
  lease := leaseAfter attempt.lease request reply
  notified := notifiedAfter attempt.notified request reply

def Attempt.Calls (attempt : Attempt) (id : Uuid) : Prop :=
  ∃ message next, attempt.rest = .ask (.notifyBank message) next ∧ message.id = id

/-- The attempts are those under way and those that have come to their end. -/
structure System where
  store : Store
  /-- In milliseconds. -/
  clock : Int
  attempts : List Attempt
  /-- The deposits whose request the bank accepted, as often as it did. -/
  accepted : List Uuid

/-- Nobody has outlived its claim. -/
def System.Timely (system : System) : Prop :=
  ∀ attempt ∈ system.attempts, ∀ limit, attempt.lease = some limit → system.clock ≤ limit

structure Terms where
  /-- Every attempt is over, by its last write or by its worker's death, no later than its
  claim ends. -/
  timely : Prop
  /-- No write fails, and no worker dies between the bank's acceptance and the write after it. -/
  careful : Prop
  /-- No answer of the bank is lost: a worker whose request it accepts is told so. -/
  reliable : Prop

/-- A storage call that fails may have taken effect or not. -/
def answers (terms : Terms) (clock : Int) : Answering Store
  | .storage statement, before, reply, after =>
      (reply, after) = statement.run before ∨
        (terms.careful → statement.isRead = true) ∧ (∃ fault, reply = .error fault) ∧
          (after = before ∨ after = (statement.run before).2)
  | .clock, before, reply, after => reply = clock ∧ after = before
  | _, before, _, after => after = before

/-- One step of one party. Anybody may begin an attempt at any deposit at any time, and others
may add deposits and write to all other tables. -/
inductive Step (terms : Terms) : System → System → Prop where
  | tick {system : System} {now : Int} (later : system.clock ≤ now) :
      Step terms system { system with clock := now }
  | start {system : System} (ttl : Span) (id : Uuid) :
      Step terms system { system with attempts := .begin ttl id :: system.attempts }
  | answer {system : System} {attempt : Attempt} {others : List Attempt} {request : Request}
      {next : request.Reply → Activity Failure Bool} {reply : request.Reply} {after : Store}
      {accepts : Bool} (chosen : system.attempts.Perm (attempt :: others))
      (asks : attempt.rest = .ask request next)
      (answered : answers terms system.clock request system.store reply after)
      (hears : Hears terms.reliable accepts request reply) :
      Step terms system
        { store := after, clock := system.clock
          attempts := attempt.told request reply (next reply) :: others
          accepted := acceptedAfter system.accepted accepts request }
  | die {system : System} {attempt : Attempt} {others : List Attempt}
      (chosen : system.attempts.Perm (attempt :: others))
      (spared : terms.careful → attempt.lease = none ∨ attempt.notified = false) :
      Step terms system { system with attempts := others }
  /-- The bank accepts a request whose worker has died meanwhile. -/
  | orphan {system : System} {attempt : Attempt} {others : List Attempt} {id : Uuid}
      (chosen : system.attempts.Perm (attempt :: others)) (calls : attempt.Calls id)
      (lost : ¬ terms.reliable) :
      Step terms system { system with attempts := others, accepted := id :: system.accepted }
  | elsewhere {system : System} {after : Store} {added : List Store.DepositRow}
      (grown : after.deposits = system.store.deposits ++ added) (keyed : after.Keyed) :
      Step terms system { system with store := after }

/-- The states that a run on these terms comes to. -/
inductive Reached (terms : Terms) (start : System) : System → Prop where
  | begin : Reached terms start start
  | step {before after : System} : Reached terms start before →
      (terms.timely → before.Timely) → Step terms before after → Reached terms start after

/-- What an attempt at a deposit may ask for with the claim and the acceptance it has. -/
def Permits (id : Uuid) (clock : Int) (lease : Option Int) (notified : Bool) : Request → Prop
  | .storage (.claim other now _) => other = id ∧ now ≤ clock ∧ lease = none
  | .storage (.release other) => other = id ∧ lease ≠ none ∧ notified = false
  | .storage (.advance other source target _) =>
      other = id ∧ source = .inserted ∧ target = .actionComplete ∧ lease ≠ none ∧ notified = true
  | .storage statement => statement.isRead = true
  | .notifyBank message => message.id = id ∧ lease ≠ none ∧ notified = false
  | _ => True

def Possible (clock : Int) : (request : Request) → request.Reply → Prop
  | .clock, reply => reply = clock
  | _, _ => True

/-- From the given time on the activity asks for nothing but what is permitted, whatever it is
told and however long it waits, and it leaves no claim behind. -/
def Orderly (id : Uuid) : Activity Failure Bool → Int → Option Int → Bool → Prop
  | .done _, _, lease, _ => lease = none
  | .ask request next, clock, lease, notified => ∀ later, clock ≤ later →
      Permits id later lease notified request ∧ ∀ reply, Possible later request reply →
        Orderly id (next reply) later (leaseAfter lease request reply)
          (notifiedAfter notified request reply)

def Attempt.Orderly (attempt : Attempt) (clock : Int) : Prop :=
  DepositQueue.Orderly attempt.id attempt.rest clock attempt.lease attempt.notified

theorem Permits.storage {id : Uuid} {clock : Int} {lease : Option Int} {notified : Bool}
    {statement : Store.Statement} (permits : Permits id clock lease notified (.storage statement)) :
    (∃ now limit, statement = .claim id now limit ∧ now ≤ clock ∧ lease = none) ∨
      (statement = .release id ∧ lease ≠ none ∧ notified = false) ∨
      (∃ now, statement = .advance id .inserted .actionComplete now ∧ lease ≠ none ∧
        notified = true) ∨
      statement.isRead = true := by
  cases statement with
  | claim other now limit =>
      obtain ⟨rfl, past, free⟩ := permits
      exact .inl ⟨now, limit, rfl, past, free⟩
  | release other =>
      obtain ⟨rfl, rest⟩ := permits
      exact .inr (.inl ⟨rfl, rest⟩)
  | advance other source target now =>
      obtain ⟨rfl, rfl, rfl, rest⟩ := permits
      exact .inr (.inr (.inl ⟨now, rfl, rest⟩))
  | _ => exact .inr (.inr (.inr permits))

theorem Orderly.later {id : Uuid} {rest : Activity Failure Bool} {clock later : Int}
    {lease : Option Int} {notified : Bool} (orderly : Orderly id rest clock lease notified)
    (passed : clock ≤ later) : Orderly id rest later lease notified := by
  cases rest with
  | done result => exact orderly
  | ask request next =>
      intro time after
      exact orderly time (Int.le_trans passed after)

def proceed (id : Uuid) : Option Store.Deposit → Activity Failure Bool
  | none => return false
  | some deposit => (notifyBank id deposit.fromAddress deposit.amount).attempt fun
      | .error failure => storage (.release id) >>= fun _ => .fail failure
      | .ok () => do
          let stamp ← Activity.request .stamp
          let _ ← storage (.advance id .inserted .actionComplete stamp.time)
          return true

theorem process_asks (ttl : Span) (id : Uuid) :
    process ttl id = .ask .clock fun now =>
      (claimEnd? now ttl).elim (.fail .claimRange) fun limit =>
        storage (.claim id now limit) >>= proceed id := by
  change Activity.ask _ _ = _
  congr 1
  funext now
  dsimp only [Activity.bind]
  cases claimEnd? now ttl with
  | none => rfl
  | some limit =>
      change storage (.claim id now limit) >>= _ = storage (.claim id now limit) >>= _
      congr 1
      funext granted
      cases granted <;> rfl

theorem orderly_notifyBank {id : Uuid} {limit : Int}
    {next : Except Failure Unit → Activity Failure Bool} (address amount : String) (clock : Int)
    (fails : ∀ failure later, Orderly id (next (.error failure)) later (some limit) false)
    (succeeds : ∀ later, Orderly id (next (.ok ())) later (some limit) true) :
    Orderly id ((notifyBank id address amount).attempt next) clock (some limit) false := by
  unfold notifyBank Directory.resolveActive
  by_cases empty : address.isEmpty = true
  · rw [if_pos empty]
    exact fails (.notRegistered address) clock
  · rw [if_neg empty]
    intro later _
    constructor
    · rfl
    · intro reply _
      cases reply with
      | error fault => exact fails (.storage fault) later
      | ok registration =>
          cases registration with
          | none => exact fails (.notRegistered address) later
          | some registration =>
              intro called _
              constructor
              · exact ⟨rfl, nofun, rfl⟩
              · intro verdict _
                cases verdict with
                | error failure => exact fails (.bank failure) called
                | ok accepted => exact succeeds called

theorem orderly_release {id : Uuid} {limit : Int} (failure : Failure) (clock : Int) :
    Orderly id (storage (.release id) >>= fun _ => .fail failure) clock (some limit) false := by
  intro later _
  constructor
  · exact ⟨rfl, nofun, rfl⟩
  · intro reply _
    cases reply <;> rfl

theorem orderly_advance {id : Uuid} {limit : Int} (clock : Int) :
    Orderly id (do
      let stamp ← Activity.request .stamp
      let _ ← storage (.advance id .inserted .actionComplete stamp.time)
      return true) clock (some limit) true := by
  intro stamped _
  constructor
  · trivial
  · intro stamp _ later _
    constructor
    · exact ⟨rfl, rfl, rfl, nofun, rfl⟩
    · intro reply _
      cases reply <;> rfl

theorem orderly_process (ttl : Span) (id : Uuid) (clock : Int) :
    Orderly id (process ttl id) clock none false := by
  rw [process_asks]
  intro started _
  constructor
  · trivial
  · rintro now rfl
    dsimp only
    cases claimEnd? now ttl with
    | none => rfl
    | some limit =>
        -- The clock was read before the claim, which may come to the tables much later.
        intro claimed passed
        constructor
        · exact ⟨rfl, passed, rfl⟩
        · intro reply _
          match reply with
          -- Without a granted claim the attempt ends here and has nothing to give back.
          | .error fault => rfl
          | .ok none => rfl
          | .ok (some deposit) =>
              apply orderly_notifyBank
              · exact fun failure later => orderly_release failure later
              · exact fun later => orderly_advance later

theorem Attempt.Orderly.asked {attempt : Attempt} {clock : Int} {request : Request}
    {next : request.Reply → Activity Failure Bool} (orderly : attempt.Orderly clock)
    (asks : attempt.rest = .ask request next) :
    Permits attempt.id clock attempt.lease attempt.notified request ∧
      ∀ reply, Possible clock request reply →
        (attempt.told request reply (next reply)).Orderly clock := by
  rw [Attempt.Orderly, asks] at orderly
  exact orderly clock (Int.le_refl clock)

section Answers

variable {terms : Terms} {clock : Int} {request : Request} {before after : Store}
  {reply : request.Reply}

theorem answers_possible (answered : answers terms clock request before reply after) :
    Possible clock request reply := by
  cases request with
  | clock => exact answered.1
  | _ => trivial

theorem answers_store (answered : answers terms clock request before reply after) :
    after = before ∨
      ∃ statement, request = .storage statement ∧ after = (statement.run before).2 := by
  cases request with
  | storage statement =>
      rcases answered with ran | ⟨_, _, same | ran⟩
      · exact .inr ⟨statement, rfl, (Prod.ext_iff.mp ran).2⟩
      · exact .inl same
      · exact .inr ⟨statement, rfl, ran⟩
  | clock => exact .inl answered.2
  | _ => exact .inl answered

end Answers

section Choice

variable {attempts others : List Attempt} {attempt other : Attempt}

theorem chosen_mem (chosen : attempts.Perm (attempt :: others)) : attempt ∈ attempts :=
  chosen.mem_iff.mpr List.mem_cons_self

theorem others_mem (chosen : attempts.Perm (attempt :: others)) (member : other ∈ others) :
    other ∈ attempts :=
  chosen.mem_iff.mpr (List.mem_cons_of_mem _ member)

end Choice

structure System.Orderly (system : System) : Prop where
  keyed : system.store.Keyed
  attempts : ∀ attempt ∈ system.attempts, attempt.Orderly system.clock

theorem Step.orderly {terms : Terms} {before after : System} (step : Step terms before after)
    (orderly : before.Orderly) : after.Orderly := by
  -- Attempts are orderly for all that may come, so what others do needs no look at their programs.
  cases step with
  | tick later =>
      exact ⟨orderly.keyed, fun attempt member => (orderly.attempts attempt member).later later⟩
  | start ttl id =>
      constructor
      · exact orderly.keyed
      · intro attempt member
        rcases List.mem_cons.mp member with rfl | old
        · exact orderly_process ttl id before.clock
        · exact orderly.attempts attempt old
  | answer chosen asks answered _ =>
      constructor
      · rcases answers_store answered with same | ⟨statement, _, ran⟩
        · exact same ▸ orderly.keyed
        · exact ran ▸ Store.keyed_run statement orderly.keyed
      · intro attempt member
        rcases List.mem_cons.mp member with rfl | other
        · have asked := orderly.attempts _ (chosen_mem chosen)
          exact (asked.asked asks).2 _ (answers_possible answered)
        · exact orderly.attempts attempt (others_mem chosen other)
  | die chosen _ | orphan chosen _ _ =>
      constructor
      · exact orderly.keyed
      · intro attempt member
        exact orderly.attempts attempt (others_mem chosen member)
  | elsewhere _ keyed => exact ⟨keyed, orderly.attempts⟩

theorem Reached.orderly {terms : Terms} {start system : System}
    (reached : Reached terms start system) (orderly : start.Orderly) : system.Orderly := by
  induction reached with
  | begin => exact orderly
  | step _ _ step ih => exact step.orderly ih

end Settlement.DepositQueue
