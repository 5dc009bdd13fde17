import Settlement.Proofs.Chain.FeedOrder
import Settlement.Proofs.Consumer.Milestones
import Settlement.Proofs.Store.Effects

/-!
No block is skipped. The supervisors run with marks, and a log holds the marks of all attempts
and every value that the cursor takes, the latest first; each entry has to follow from the
entries before it. Questions are answered from tables that others may have changed, except for
the stream's cursor. What the supervisors do without marks, question by question, they also do
with them.
-/

namespace Settlement.Coverage

open Consumer

open Text.Decimal (maxSigned)

/-- The value that the cursor took last. -/
def cursorOf : List Milestone → Option Store.Cell
  | [] => none
  | .moved cell :: _ => cell
  | _ :: before => cursorOf before

def createdAt : List Milestone → Option Store.Cell
  | [] => none
  | .moved cell :: before => (createdAt before).or cell
  | _ :: before => createdAt before

def Follows (before : List Milestone) (height : Nat) : Prop :=
  ∃ cursor : Nat, cursorOf before = some (.number cursor) ∧ cursor ≤ maxSigned ∧
    height = cursor + 1

/-- What an entry needs of the entries before it. The cursor is created at one of the given
epochs and afterwards only moves on to a recorded height. -/
def Justified (epochs : Nat → Prop) (before : List Milestone) : Milestone → Prop
  | .moved cell => ∃ height : Nat, cell = some (.number height) ∧ height ≤ maxSigned ∧
      (cursorOf before = none ∧ epochs height ∨
        Follows before height ∧ .recorded height ∈ before)
  | .opened height | .began height => Follows before height
  | .handled height => Follows before height ∧ .began height ∈ before
  | .recorded height => Follows before height ∧ .handled height ∈ before
  | .ended succeeded => succeeded = true → cursorOf before ≠ none

def Sound (epochs : Nat → Prop) : List Milestone → Prop
  | [] => True
  | entry :: before => Justified epochs before entry ∧ Sound epochs before

section Log

variable {epochs : Nat → Prop} {log : List Milestone}

theorem Milestone.moved_or (entry : Milestone) :
    (∃ cell, entry = .moved cell) ∨ ∀ cell, entry ≠ .moved cell := by
  cases entry with
  | moved cell => exact Or.inl ⟨cell, rfl⟩
  | _ => exact Or.inr fun cell same => nomatch same

theorem cursorOf_cons {entry : Milestone} (other : ∀ cell, entry ≠ .moved cell)
    (before : List Milestone) : cursorOf (entry :: before) = cursorOf before := by
  cases entry with
  | moved cell => exact absurd rfl (other cell)
  | _ => rfl

theorem createdAt_cons {entry : Milestone} (other : ∀ cell, entry ≠ .moved cell)
    (before : List Milestone) : createdAt (entry :: before) = createdAt before := by
  cases entry with
  | moved cell => exact absurd rfl (other cell)
  | _ => rfl

theorem Sound.earlier {later earlier : List Milestone} (sound : Sound epochs (later ++ earlier)) :
    Sound epochs earlier := by
  induction later with
  | nil => exact sound
  | cons entry later ih => exact ih sound.2

theorem Sound.justified {later earlier : List Milestone} {entry : Milestone}
    (sound : Sound epochs (later ++ entry :: earlier)) : Justified epochs earlier entry :=
  sound.earlier.1

theorem Sound.justified_mem (sound : Sound epochs log) {entry : Milestone}
    (member : entry ∈ log) : ∃ earlier, (∀ other, other ∈ earlier → other ∈ log) ∧
      Sound epochs earlier ∧ Justified epochs earlier entry := by
  obtain ⟨later, earlier, rfl⟩ := List.append_of_mem member
  refine ⟨earlier, ?_, sound.earlier.2, sound.justified⟩
  intro other present
  simp [present]

theorem Sound.handled (sound : Sound epochs log) {height : Nat}
    (recorded : .recorded height ∈ log) : .handled height ∈ log := by
  obtain ⟨earlier, within, _, _, handled⟩ := sound.justified_mem recorded
  exact within _ handled

theorem Sound.uncreated (sound : Sound epochs log) (absent : cursorOf log = none) :
    createdAt log = none := by
  induction log with
  | nil => rfl
  | cons entry before ih =>
      rcases entry.moved_or with ⟨cell, rfl⟩ | other
      · obtain ⟨height, rfl, _⟩ := sound.1
        cases absent
      · rw [createdAt_cons other]
        rw [cursorOf_cons other] at absent
        exact ih sound.2 absent

theorem Sound.covered (sound : Sound epochs log) {cell : Store.Cell}
    (stored : cursorOf log = some cell) :
    ∃ epoch cursor : Nat, epochs epoch ∧ createdAt log = some (.number epoch) ∧
      cell = .number cursor ∧ epoch ≤ cursor ∧ cursor ≤ maxSigned ∧
      ∀ height, epoch < height → height ≤ cursor →
        .handled height ∈ log ∧ .recorded height ∈ log := by
  induction log generalizing cell with
  | nil => cases stored
  | cons entry before ih =>
      rcases entry.moved_or with ⟨moved, rfl⟩ | other
      · obtain ⟨height, rfl, fits, created | ⟨⟨cursor, reached, _, rfl⟩, recorded⟩⟩ := sound.1
        · -- A cursor that was just created has nothing to cover yet.
          cases stored
          refine ⟨height, height, created.2, ?_, rfl, Nat.le_refl _, fits, ?_⟩
          · rw [createdAt, sound.2.uncreated created.1]
            rfl
          · intro other above below
            omega
        · -- The cursor moved by one, to a height whose recording is in the log before.
          cases stored
          obtain ⟨epoch, same, chosen, first, number, least, _, complete⟩ := ih sound.2 reached
          obtain rfl := Store.Cell.natural_inj number
          refine ⟨epoch, cursor + 1, chosen, ?_, rfl, Nat.le_succ_of_le least, fits, ?_⟩
          · rw [createdAt, first]
            rfl
          · intro height above below
            rcases Nat.lt_or_eq_of_le below with earlier | rfl
            · obtain ⟨handled, done⟩ := complete height above (Nat.le_of_lt_succ earlier)
              exact ⟨List.mem_cons_of_mem _ handled, List.mem_cons_of_mem _ done⟩
            · exact ⟨List.mem_cons_of_mem _ (sound.2.handled recorded),
                List.mem_cons_of_mem _ recorded⟩
      · rw [cursorOf_cons other] at stored
        rw [createdAt_cons other]
        obtain ⟨epoch, cursor, chosen, first, number, least, fits, complete⟩ := ih sound.2 stored
        refine ⟨epoch, cursor, chosen, first, number, least, fits, ?_⟩
        intro height above below
        obtain ⟨handled, done⟩ := complete height above below
        exact ⟨List.mem_cons_of_mem _ handled, List.mem_cons_of_mem _ done⟩

theorem Sound.monotone {later earlier : List Milestone} {cursor : Nat}
    (sound : Sound epochs (later ++ earlier)) (stored : cursorOf earlier = some (.number cursor)) :
    ∃ higher : Nat, cursor ≤ higher ∧ cursorOf (later ++ earlier) = some (.number higher) := by
  induction later with
  | nil => exact ⟨cursor, Nat.le_refl cursor, stored⟩
  | cons entry later ih =>
      obtain ⟨higher, le, reached⟩ := ih sound.2
      rcases entry.moved_or with ⟨moved, rfl⟩ | other
      · obtain ⟨height, rfl, _, ⟨absent, _⟩ | ⟨⟨previous, same, _, rfl⟩, _⟩⟩ := sound.1
        · -- What is stored is not created again.
          rw [List.append_eq, reached] at absent
          cases absent
        · rw [List.append_eq, reached] at same
          have equal := Store.Cell.natural_inj (Option.some.inj same)
          exact ⟨previous + 1, by omega, rfl⟩
      · refine ⟨higher, le, ?_⟩
        rw [List.cons_append, cursorOf_cons other]
        exact reached

end Log

/-- Questions are answered from tables in which others may have changed anything but the
stream's cursor. A storage call that fails may have taken effect, and a stream delivers what a
feed has delivered at some point. -/
def sharedAnswers (stream : Uuid) : Answering Store
  | .storage statement, before, reply, after =>
      ∃ seen, seen.cursorCell stream = before.cursorCell stream ∧
        (statement.run seen = (reply, after) ∨
          (∃ fault, reply = .error fault) ∧ (after = seen ∨ after = (statement.run seen).2))
  | .openStream types height, before, items, after =>
      after.cursorCell stream = before.cursorCell stream ∧
        ∃ feed, Chain.Feed.Reachable types height feed ∧ items = feed.received
  | .transaction _, before, _, after | .block _, before, _, after
  | .notifyBank _, before, _, after | .stamp, before, _, after | .times, before, _, after
  | .clock, before, _, after =>
      after.cursorCell stream = before.cursorCell stream

/-- The tables, all that has been asked, and the log. -/
structure Traced where
  store : Store
  history : List Exchange
  log : List Milestone

def Traced.unmarked (state : Traced) : Recorded Store := ⟨state.store, state.history⟩

def relog (stream : Uuid) (before after : Store) (log : List Milestone) : List Milestone :=
  if after.cursorCell stream = before.cursorCell stream then log
  else .moved (after.cursorCell stream) :: log

def logged (stream : Uuid) : Answering Traced := fun request before reply after =>
  (sharedAnswers stream).recorded request before.unmarked reply after.unmarked ∧
    after.log = relog stream before.store after.store before.log

theorem shared_of_logged {stream : Uuid} {request : Request} {before after : Traced}
    {reply : request.Reply} (answered : logged stream request before reply after) :
    sharedAnswers stream request before.store reply after.store :=
  answered.1.1

def noted (milestone : Milestone) (state : Traced) : Traced :=
  { state with log := milestone :: state.log }

structure Consistent (stream : Uuid) (epochs : Nat → Prop) (state : Traced) : Prop where
  sound : Sound epochs state.log
  cursor : cursorOf state.log = state.store.cursorCell stream

/-- The log is consistent and the cursor is at a height. -/
structure At (stream : Uuid) (epochs : Nat → Prop) (cursor : Nat) (state : Traced) : Prop where
  consistent : Consistent stream epochs state
  stored : state.store.cursorCell stream = some (.number cursor)
  fits : cursor ≤ maxSigned

structure Still (stream : Uuid) (before after : Traced) : Prop where
  log : after.log = before.log
  cursor : after.store.cursorCell stream = before.store.cursorCell stream

section Steps

variable {stream : Uuid} {epochs : Nat → Prop} {cursor : Nat} {state before after : Traced}

theorem Still.refl (state : Traced) : Still stream state state := ⟨rfl, rfl⟩

theorem Still.trans {middle : Traced} (first : Still stream before middle)
    (second : Still stream middle after) : Still stream before after :=
  ⟨second.log.trans first.log, second.cursor.trans first.cursor⟩

theorem Still.consistent (still : Still stream before after)
    (consistent : Consistent stream epochs before) : Consistent stream epochs after := by
  constructor
  · rw [still.log]
    exact consistent.sound
  · rw [still.log, still.cursor]
    exact consistent.cursor

theorem Still.at (still : Still stream before after) (place : At stream epochs cursor before) :
    At stream epochs cursor after :=
  ⟨still.consistent place.consistent, still.cursor.trans place.stored, place.fits⟩

theorem At.follows (place : At stream epochs cursor state) :
    Follows state.log (cursor + 1) :=
  ⟨cursor, place.consistent.cursor.trans place.stored, place.fits, rfl⟩

theorem Consistent.noted {milestone : Milestone} (consistent : Consistent stream epochs state)
    (other : ∀ cell, milestone ≠ .moved cell) (justified : Justified epochs state.log milestone) :
    Consistent stream epochs (noted milestone state) := by
  constructor
  · exact ⟨justified, consistent.sound⟩
  · exact (cursorOf_cons other state.log).trans consistent.cursor

theorem At.noted {milestone : Milestone} (place : At stream epochs cursor state)
    (other : ∀ cell, milestone ≠ .moved cell) (justified : Justified epochs state.log milestone) :
    At stream epochs cursor (noted milestone state) :=
  ⟨place.consistent.noted other justified, place.stored, place.fits⟩

theorem still_of_cursor {request : Request} {reply : request.Reply}
    (answered : logged stream request before reply after)
    (same : after.store.cursorCell stream = before.store.cursorCell stream) :
    Still stream before after := by
  constructor
  · rw [answered.2, relog, if_pos same]
  · exact same

theorem still_of_quiet {request : Request} {reply : request.Reply} (quiet : Quiet request)
    (answered : logged stream request before reply after) : Still stream before after := by
  apply still_of_cursor answered
  have shared := shared_of_logged answered
  cases request with
  | storage statement =>
      obtain ⟨seen, same, ran | ⟨_, rfl | ran⟩⟩ := shared
      · have kept := Store.cursorCell_run quiet seen stream
        rw [ran] at kept
        exact kept.trans same
      · exact same
      · rw [ran]
        exact (Store.cursorCell_run quiet seen stream).trans same
  | openStream types height => exact shared.1
  | transaction txHash => exact shared
  | block height => exact shared
  | notifyBank message => exact shared
  | stamp => exact shared
  | times => exact shared
  | clock => exact shared

theorem keeps_quiet {ε α : Type} {activity : Activity ε α} (asks : activity.Asks Quiet)
    (place : At stream epochs cursor state) :
    activity.Keeps (logged stream) (fun _ after => Consistent stream epochs after)
      (fun _ after => Still stream state after) state :=
  asks.keeps Still.refl Still.trans still_of_quiet fun first second =>
    (first.trans second).consistent place.consistent

theorem wrote_or_still {statement : Store.Statement} {reply : Except Store.Fault statement.Reply}
    {written : Store.Cell} (answered : logged stream (.storage statement) before reply after)
    (effect : ∀ seen, seen.cursorCell stream = before.store.cursorCell stream →
      ((statement.run seen).2).cursorCell stream = some written) :
    after.store.cursorCell stream = some written ∨
      Still stream before after ∧ ∃ fault, reply = .error fault := by
  obtain ⟨seen, same, ran | ⟨failed, kept | ran⟩⟩ := shared_of_logged answered
  · left
    rw [← effect seen same, ran]
  · right
    rw [← kept] at same
    exact ⟨still_of_cursor answered same, failed⟩
  · left
    rw [ran]
    exact effect seen same

theorem Consistent.wrote {request : Request} {reply : request.Reply} {height : Nat}
    (consistent : Consistent stream epochs before)
    (answered : logged stream request before reply after)
    (written : after.store.cursorCell stream = some (.number height)) (fits : height ≤ maxSigned)
    (justified : cursorOf before.log = none ∧ epochs height ∨
      Follows before.log height ∧ .recorded height ∈ before.log) :
    At stream epochs height after := by
  have changed : after.store.cursorCell stream ≠ before.store.cursorCell stream := by
    rw [written, ← consistent.cursor]
    rcases justified with ⟨absent, _⟩ | ⟨⟨cursor, stored, _, rfl⟩, _⟩
    · rw [absent]
      simp
    · rw [stored]
      intro same
      have equal := Store.Cell.natural_inj (Option.some.inj same)
      omega
  -- The write changed the cursor, so the log has an entry for it.
  have log := answered.2
  rw [relog, if_neg changed, written] at log
  refine ⟨⟨?_, ?_⟩, written, fits⟩
  · rw [log]
    exact ⟨⟨height, rfl, fits, justified⟩, consistent.sound⟩
  · rw [log, written]
    rfl

end Steps

section Attempt

open Activity
open Marked (ofActivity pass)

variable {settings : Settings} {epochs : Nat → Prop} {cursor : Nat} {state : Traced}

def Placed (stream : Uuid) (epochs : Nat → Prop) (cursor : Nat) {ε α : Type} (result : Except ε α)
    (after : Traced) : Prop :=
  match result with
  | .ok _ => At stream epochs cursor after
  | .error _ => Consistent stream epochs after

theorem keeps_moveOn (place : At settings.stream epochs cursor state)
    (recorded : .recorded (cursor + 1) ∈ state.log) :
    (moveOn settings (cursor + 1)).Keeps (logged settings.stream)
      (fun _ after => Consistent settings.stream epochs after)
      (Placed settings.stream epochs (cursor + 1)) state := by
  rw [moveOn, keeps_bind]
  unfold storedHeight Height.stored?
  by_cases fits : cursor + 1 ≤ maxSigned
  · rw [if_pos fits]
    intro stamp middle answered
    have quiet : Quiet .stamp := trivial
    have still := still_of_quiet quiet answered
    have there := still.at place
    refine ⟨there.consistent, ?_⟩
    intro reply after answered
    rcases wrote_or_still answered fun seen same =>
      Store.cursorCell_moveCursor _ stamp.time (same.trans there.stored) with written | unmoved
    · have arrived := there.consistent.wrote answered written fits
        (Or.inr ⟨there.follows, by rw [still.log]; exact recorded⟩)
      refine ⟨arrived.consistent, ?_⟩
      cases reply with
      | ok _ => exact arrived
      | error fault => exact arrived.consistent
    · obtain ⟨still, fault, rfl⟩ := unmoved
      have kept := still.consistent there.consistent
      exact ⟨kept, kept⟩
  · rw [if_neg fits]
    exact place.consistent

/-- One stage of a batch: an activity without cursor writes, then a mark that it justifies. -/
theorem keeps_stage {α : Type} {activity : Activity Failure α} {milestone : Milestone}
    {rest : Marked Milestone Failure Unit} {post : Except Failure Unit → Traced → Prop}
    (asks : activity.Asks Quiet) (place : At settings.stream epochs cursor state)
    (other : ∀ cell, milestone ≠ .moved cell) (justified : Justified epochs state.log milestone)
    (continues : ∀ after, At settings.stream epochs cursor after →
      after.log = milestone :: state.log → rest.Keeps (logged settings.stream) noted
        (fun _ after => Consistent settings.stream epochs after) post after)
    (fails : ∀ failure after, Consistent settings.stream epochs after →
      post (.error failure) after) :
    (ofActivity activity >>= fun _ => pass milestone >>= fun _ => rest).Keeps
      (logged settings.stream) noted (fun _ after => Consistent settings.stream epochs after)
      post state := by
  apply Marked.Keeps.bind ((Marked.keeps_ofActivity _ _).mpr (keeps_quiet asks place))
  · intro _ middle still
    have there := still.at place
    have allowed : Justified epochs middle.log milestone := by
      rw [still.log]
      exact justified
    refine ⟨there.consistent.noted other allowed, continues _ (there.noted other allowed) ?_⟩
    rw [← still.log]
    rfl
  · intro failure after still
    exact fails failure after (still.consistent place.consistent)

theorem keeps_markedItem {batch : Chain.Batch} (place : At settings.stream epochs cursor state)
    (next : batch.height = cursor + 1) :
    (markedItem settings (.ok batch)).Keeps (logged settings.stream) noted
      (fun _ after => Consistent settings.stream epochs after)
      (Placed settings.stream epochs (cursor + 1)) state := by
  have fails : ∀ failure after, Consistent settings.stream epochs after →
      Placed settings.stream epochs (cursor + 1) (.error failure : Except Failure Unit) after :=
    fun _ _ consistent => consistent
  simp only [markedItem, next]
  -- The mark of each stage is what justifies the mark of the stage after it.
  have began : Justified epochs state.log (.began (cursor + 1)) := place.follows
  have there := place.noted (by simp) began
  refine ⟨there.consistent, ?_⟩
  have handled : Justified epochs (noted (.began (cursor + 1)) state).log
      (.handled (cursor + 1)) := ⟨there.follows, List.mem_cons_self⟩
  have attends := (asks_handleEvents settings batch (batch.transfers settings.contract)).mono
    quiet_of_attends
  refine keeps_stage (attends.mapFailure _) there (by simp) handled ?_ fails
  intro middle there log
  have recorded : Justified epochs middle.log (.recorded (cursor + 1)) := by
    refine ⟨there.follows, ?_⟩
    rw [log]
    exact List.mem_cons_self
  have quiet := ((asks_recordBlock settings (cursor + 1) batch).mono quiet_of_enters).discard
  refine keeps_stage (quiet.mapFailure _) there (by simp) recorded ?_ fails
  intro after there log
  apply (Marked.keeps_ofActivity _ _).mpr
  apply keeps_moveOn there
  rw [log]
  exact List.mem_cons_self

def Settled (stream : Uuid) (epochs : Nat → Prop) {ε α : Type} (result : Except ε α)
    (after : Traced) : Prop :=
  match result with
  | .ok _ => ∃ cursor, At stream epochs cursor after
  | .error _ => Consistent stream epochs after

theorem keeps_markedItems {items : List (Except Chain.Failure Chain.Batch)}
    (place : At settings.stream epochs cursor state) (order : Chain.InOrder (cursor + 1) items) :
    (markedItems settings items).Keeps (logged settings.stream) noted
      (fun _ after => Consistent settings.stream epochs after)
      (Settled settings.stream epochs) state := by
  obtain ⟨batches, ending, rfl, consecutive, ends⟩ := order
  induction batches generalizing cursor state with
  | nil =>
      rcases ends with rfl | ⟨failure, rfl⟩
      · exact ⟨cursor, place⟩
      · exact place.consistent
  | cons batch rest ih =>
      have next : batch.height = cursor + 1 := consecutive 0 batch rfl
      have following : Chain.Consecutive (cursor + 1 + 1) rest := by
        intro index other found
        have height := consecutive (index + 1) other found
        omega
      -- A batch leaves the cursor at its own height, and the rest follows on that.
      apply (keeps_markedItem place next).bind
      · intro _ after there
        exact ih there following
      · intro failure after consistent
        exact consistent

theorem Consistent.unset_or_at (consistent : Consistent settings.stream epochs state) :
    state.store.cursorCell settings.stream = none ∧ cursorOf state.log = none ∨
      ∃ cursor, At settings.stream epochs cursor state := by
  have same := consistent.cursor
  cases stored : state.store.cursorCell settings.stream with
  | none => exact Or.inl ⟨rfl, same.trans stored⟩
  | some cell =>
      obtain ⟨_, cursor, _, _, rfl, _, fits, _⟩ := consistent.sound.covered (same.trans stored)
      exact Or.inr ⟨cursor, consistent, stored, fits⟩

def Opened (stream : Uuid) (epochs : Nat → Prop) (result : Except Failure Store.Cursor)
    (after : Traced) : Prop :=
  match result with
  | .ok found => ∃ cursor : Nat, At stream epochs cursor after ∧ found.height = cursor
  | .error _ => Consistent stream epochs after

theorem read_cursor {before after : Traced} {reply : Except Store.Fault (Option Store.Cursor)}
    (answered : logged settings.stream (.storage (.cursor settings.stream)) before reply after) :
    Still settings.stream before after ∧ ∀ found, reply = .ok found →
      before.store.cursorCell settings.stream =
        found.map fun cursor => .number cursor.height := by
  have quiet : Quiet (.storage (.cursor settings.stream)) := rfl
  refine ⟨still_of_quiet quiet answered, ?_⟩
  rintro found rfl
  obtain ⟨seen, same, ran | ⟨⟨fault, failed⟩, _⟩⟩ := shared_of_logged answered
  · have told : Store.findCursor seen.cursors settings.stream = .ok found :=
      congrArg Prod.fst ran
    rw [← same]
    cases found with
    | none => exact Store.cursorCell_none told
    | some cursor => exact Store.cursorCell_some told
  · cases failed

theorem keeps_readCursor (place : At settings.stream epochs cursor state)
    {next : Option Store.Cursor → Activity Failure Store.Cursor}
    (returns : ∀ found, next (some found) = pure found) :
    (storage (.cursor settings.stream) >>= next).Keeps (logged settings.stream)
      (fun _ after => Consistent settings.stream epochs after)
      (Opened settings.stream epochs) state := by
  intro reply after answered
  obtain ⟨still, told⟩ := read_cursor answered
  have there := still.at place
  refine ⟨there.consistent, ?_⟩
  rcases reply with fault | _ | found
  · exact there.consistent
  · have absent := told none rfl
    rw [place.stored] at absent
    cases absent
  · have stored := told (some found) rfl
    rw [place.stored] at stored
    refine (congrArg (fun activity : Activity Failure Store.Cursor => activity.Keeps
      (logged settings.stream) (fun _ after => Consistent settings.stream epochs after)
      (Opened settings.stream epochs) after) (returns found)).mpr ?_
    exact ⟨cursor, there, (Store.Cell.number.inj (Option.some.inj stored)).symm⟩

theorem keeps_openCursor (consistent : Consistent settings.stream epochs state)
    (configured : epochs settings.epoch) :
    (openCursor settings).Keeps (logged settings.stream)
      (fun _ after => Consistent settings.stream epochs after)
      (Opened settings.stream epochs) state := by
  rcases consistent.unset_or_at with ⟨unset, unlogged⟩ | ⟨cursor, place⟩
  · intro reply middle answered
    obtain ⟨still, told⟩ := read_cursor answered
    have kept := still.consistent consistent
    refine ⟨kept, ?_⟩
    rcases reply with fault | _ | found
    · exact kept
    · refine (keeps_bind _ _ _).mpr ?_
      unfold storedHeight Height.stored?
      by_cases fits : settings.epoch ≤ maxSigned
      · rw [if_pos fits]
        intro stamp stamped answered
        have quiet : Quiet .stamp := trivial
        have since := still.trans (still_of_quiet quiet answered)
        have kept := since.consistent consistent
        refine ⟨kept, ?_⟩
        intro reply after answered
        -- A lost reply may hide that the cursor was created, which keeps the log consistent as
        -- well.
        rcases wrote_or_still answered fun seen same => Store.cursorCell_addCursor
          settings.epoch stamp.time (same.trans (since.cursor.trans unset)) with written | unmoved
        · have created := kept.wrote answered written fits
            (Or.inl ⟨by rw [since.log]; exact unlogged, configured⟩)
          refine ⟨created.consistent, ?_⟩
          cases reply with
          | ok _ => exact keeps_readCursor created fun _ => rfl
          | error fault => exact created.consistent
        · obtain ⟨still, fault, rfl⟩ := unmoved
          exact ⟨still.consistent kept, still.consistent kept⟩
      · rw [if_neg fits]
        exact kept
    · have stored := told (some found) rfl
      rw [unset] at stored
      cases stored
  · exact keeps_readCursor place fun _ => rfl

theorem keeps_markedConsume (consistent : Consistent settings.stream epochs state)
    (configured : epochs settings.epoch) :
    (markedConsume settings).Keeps (logged settings.stream) noted
      (fun _ after => Consistent settings.stream epochs after)
      (Settled settings.stream epochs) state := by
  apply ((Marked.keeps_ofActivity _ _).mpr (keeps_openCursor consistent configured)).bind
  · rintro found middle ⟨cursor, place, height⟩
    rw [height, Height.next?_shown place.fits]
    have opened : Justified epochs middle.log (.opened (cursor + 1)) := place.follows
    have there := place.noted (by simp) opened
    refine ⟨there.consistent, ?_⟩
    intro items after answered
    have quiet : Quiet (.openStream Chain.Event.streamedTypes (cursor + 1)) := trivial
    have place := (still_of_quiet quiet answered).at there
    refine ⟨place.consistent, ?_⟩
    obtain ⟨_, feed, reachable, rfl⟩ := shared_of_logged answered
    exact keeps_markedItems place (Chain.Feed.received_inOrder reachable)
  · intro failure after consistent
    exact consistent

theorem keeps_markedSupervise (consistent : Consistent settings.stream epochs state)
    (configured : epochs settings.epoch) (rounds : Nat) :
    (markedSupervise settings rounds).Keeps (logged settings.stream) noted
      (fun _ after => Consistent settings.stream epochs after)
      (fun _ after => Consistent settings.stream epochs after) state := by
  -- A round ends with the log consistent, whether its attempt succeeded or not.
  induction rounds generalizing state with
  | zero => exact consistent
  | succ rounds ih =>
      apply (keeps_markedConsume consistent configured).attempt
      intro result middle settled
      have justified : Justified epochs middle.log (.ended result.toBool) := by
        intro succeeded
        cases result with
        | ok _ =>
            obtain ⟨cursor, place⟩ := settled
            rw [place.consistent.cursor, place.stored]
            simp
        | error failure => cases succeeded
      have kept : Consistent settings.stream epochs middle := by
        cases result with
        | ok _ =>
            obtain ⟨cursor, place⟩ := settled
            exact place.consistent
        | error failure => exact settled
      have after := kept.noted (by simp) justified
      exact ⟨after, ih after⟩

end Attempt

/-- What a log tells about the blocks, the latest entry first. -/
structure Gapless (epochs : Nat → Prop) (log : List Milestone) : Prop where
  /-- The cursor lies between the epoch it was created at and the greatest stored height, and
  every height in between has been handled and recorded. -/
  covered : ∀ {cell}, cursorOf log = some cell → ∃ epoch cursor : Nat, epochs epoch ∧
    createdAt log = some (.number epoch) ∧ cell = .number cursor ∧ epoch ≤ cursor ∧
    cursor ≤ maxSigned ∧ ∀ height, epoch < height → height ≤ cursor →
      .handled height ∈ log ∧ .recorded height ∈ log
  /-- The cursor never decreases. -/
  monotone : ∀ {later earlier} {cursor : Nat}, log = later ++ earlier →
    cursorOf earlier = some (.number cursor) →
    ∃ higher : Nat, cursor ≤ higher ∧ cursorOf log = some (.number higher)
  /-- It only changes when it is created and when the height after it has been recorded. -/
  moves : ∀ {later earlier cell}, log = later ++ .moved cell :: earlier →
    ∃ height : Nat, cell = some (.number height) ∧ height ≤ maxSigned ∧
      (cursorOf earlier = none ∧ epochs height ∨
        Follows earlier height ∧ .recorded height ∈ earlier)
  /-- Streams are opened and batches pass their stages right after the cursor. -/
  next : ∀ {later earlier entry height}, log = later ++ entry :: earlier →
    entry = .opened height ∨ entry = .began height ∨ entry = .handled height ∨
      entry = .recorded height → Follows earlier height
  /-- No batch above the height after the cursor has been handled even partly. -/
  partly : ∀ {height}, .began height ∈ log ∨ .handled height ∈ log ∨ .recorded height ∈ log →
    ∃ cursor : Nat, cursorOf log = some (.number cursor) ∧ height ≤ cursor + 1
  /-- Before a batch is first handled or recorded, all batches below it have been. -/
  ordered : ∀ {later earlier entry} {epoch lower height : Nat}, log = later ++ entry :: earlier →
    entry = .handled height ∨ entry = .recorded height →
    createdAt earlier = some (.number epoch) → epoch < lower → lower < height →
    .handled lower ∈ earlier ∧ .recorded lower ∈ earlier
  /-- As long as there is no cursor, every attempt fails. -/
  refused : ∀ {later earlier}, log = later ++ .ended true :: earlier → cursorOf earlier ≠ none

section Gapless

variable {epochs : Nat → Prop} {log : List Milestone}

theorem Justified.follows {before : List Milestone} {entry : Milestone} {height : Nat}
    (justified : Justified epochs before entry)
    (stage : entry = .opened height ∨ entry = .began height ∨ entry = .handled height ∨
      entry = .recorded height) : Follows before height := by
  rcases stage with rfl | rfl | rfl | rfl
  · exact justified
  · exact justified
  · exact justified.1
  · exact justified.1

theorem Sound.gapless (sound : Sound epochs log) : Gapless epochs log where
  covered := sound.covered
  monotone := by
    rintro later earlier cursor rfl stored
    exact sound.monotone stored
  moves := by
    rintro later earlier cell rfl
    exact sound.justified
  next := by
    rintro later earlier entry height rfl stage
    exact sound.justified.follows stage
  partly := by
    intro height stage
    have entered : ∃ entry ∈ log, entry = .opened height ∨ entry = .began height ∨
        entry = .handled height ∨ entry = .recorded height := by
      rcases stage with member | member | member
      · exact ⟨_, member, Or.inr (Or.inl rfl)⟩
      · exact ⟨_, member, Or.inr (Or.inr (Or.inl rfl))⟩
      · exact ⟨_, member, Or.inr (Or.inr (Or.inr rfl))⟩
    obtain ⟨entry, member, passed⟩ := entered
    obtain ⟨later, earlier, rfl⟩ := List.append_of_mem member
    obtain ⟨cursor, stored, _, rfl⟩ := sound.justified.follows passed
    -- The cursor was one below the height at that entry and has not gone back since.
    have split : later ++ entry :: earlier = (later ++ [entry]) ++ earlier := by simp
    rw [split] at sound ⊢
    obtain ⟨higher, le, reached⟩ := sound.monotone stored
    exact ⟨higher, reached, Nat.succ_le_succ le⟩
  ordered := by
    rintro later earlier entry epoch lower height rfl stage created above below
    have follows := sound.justified.follows (Or.inr (Or.inr stage))
    obtain ⟨cursor, stored, _, rfl⟩ := follows
    obtain ⟨first, same, _, founded, number, _, _, complete⟩ :=
      sound.earlier.2.covered stored
    rw [founded] at created
    obtain rfl := Store.Cell.natural_inj (Option.some.inj created)
    obtain rfl := Store.Cell.natural_inj number
    exact complete lower above (Nat.le_of_lt_succ below)
  refused := by
    rintro later earlier rfl
    exact sound.justified rfl

end Gapless

/-- A supervisor of the stream with one of the given epochs. -/
def Supervises (stream : Uuid) (epochs : Nat → Prop) (program : Activity Failure Unit) : Prop :=
  ∃ settings rounds, settings.stream = stream ∧ epochs settings.epoch ∧
    program = supervise settings rounds

def MarkedSupervises (stream : Uuid) (epochs : Nat → Prop)
    (program : Marked Milestone Failure Unit) : Prop :=
  ∃ settings rounds, settings.stream = stream ∧ epochs settings.epoch ∧
    program = markedSupervise settings rounds

theorem supervises_iff {stream : Uuid} {epochs : Nat → Prop}
    (program : Activity Failure Unit) : Supervises stream epochs program ↔
      ∃ marked, MarkedSupervises stream epochs marked ∧ marked.erase = program := by
  constructor
  · rintro ⟨settings, rounds, same, chosen, rfl⟩
    exact ⟨_, ⟨settings, rounds, same, chosen, rfl⟩, erase_markedSupervise settings rounds⟩
  · rintro ⟨_, ⟨settings, rounds, same, chosen, rfl⟩, rfl⟩
    exact ⟨settings, rounds, same, chosen, erase_markedSupervise settings rounds⟩

/-- Every supervisor keeps the log consistent from wherever the one before it was given up. -/
theorem consistent_of_run {stream : Uuid} {epochs : Nat → Prop} {start state : Traced}
    {left : Marked Milestone Failure Unit} (initial : Consistent stream epochs start)
    (run : Marked.Run (logged stream) noted (MarkedSupervises stream epochs) start left state) :
    Consistent stream epochs state := by
  have closed : ∀ before after : Traced, Consistent stream epochs after →
      Consistent stream epochs after := fun _ _ => id
  have attempts : ∀ program, MarkedSupervises stream epochs program →
      ∀ state, Consistent stream epochs state → program.Keeps (logged stream) noted
        (fun _ after => Consistent stream epochs after)
        (fun _ after => Consistent stream epochs after) state := by
    rintro _ ⟨settings, rounds, rfl, chosen, rfl⟩ state consistent
    exact keeps_markedSupervise consistent chosen rounds
  exact (run.keeps closed initial attempts).1

/-- No block is skipped: whatever happens to the supervisors of a stream, of which one runs at
a time, the log of what they have done so far leaves no gap up to the stored cursor. The marks
change nothing in the supervisors, and whatever supervisors ask and do without them, they ask and
do with them. -/
theorem no_block_is_skipped {stream : Uuid} {epochs : Nat → Prop} {start : Store}
    (unstarted : start.cursorCell stream = none) :
    (∀ program, Supervises stream epochs program ↔
      ∃ marked, MarkedSupervises stream epochs marked ∧ marked.erase = program) ∧
    (∀ {program rest store history}, Supervises stream epochs program →
      Activity.Run (sharedAnswers stream).recorded (Supervises stream epochs) program ⟨start, []⟩
        rest ⟨store, history⟩ →
      ∃ left log, left.erase = rest ∧
        Marked.Run (logged stream) noted (MarkedSupervises stream epochs) ⟨start, [], []⟩ left
          ⟨store, history, log⟩) ∧
    ∀ {left state}, Marked.Run (logged stream) noted (MarkedSupervises stream epochs)
        ⟨start, [], []⟩ left state →
      cursorOf state.log = state.store.cursorCell stream ∧ Gapless epochs state.log := by
  refine ⟨supervises_iff, ?_, ?_⟩
  · intro program rest store history supervises run
    have quiet : ∀ event state, (noted event state).unmarked = state.unmarked := fun _ _ => rfl
    have lifts : ∀ {request} {state : Traced} {reply after},
        (sharedAnswers stream).recorded request state.unmarked reply after →
        ∃ later, logged stream request state reply later ∧ later.unmarked = after := by
      intro request state reply after answered
      exact ⟨⟨after.state, after.history, relog stream state.store after.state state.log⟩,
        ⟨answered, rfl⟩, rfl⟩
    have begun : Activity.Run (sharedAnswers stream).recorded (Supervises stream epochs) program
      (Traced.unmarked ⟨start, [], []⟩) rest ⟨store, history⟩ := run
    obtain ⟨left, ⟨_, _, log⟩, marked, erased, same⟩ :=
      Marked.Run.lift quiet lifts (fun other => (supervises_iff other).mp) supervises begun
    cases same
    exact ⟨left, log, erased, marked⟩
  · intro left state run
    have initial : Consistent stream epochs ⟨start, [], []⟩ := ⟨trivial, unstarted.symm⟩
    have consistent := consistent_of_run initial run
    exact ⟨consistent.cursor, consistent.sound.gapless⟩

def statusOne : Chain.Rpc.Answer := .result (.object
  [("sync_info", .object [("latest_block_height", .string "1")])])

def emptyPage : Chain.Rpc.Answer := .result (.object
  [("txs", .array []), ("total_count", .string "0")])

theorem one_block_is_covered : ∃ left state,
    Marked.Run (logged zeroStamp.id) noted (MarkedSupervises zeroStamp.id (· = 0))
      ⟨.empty, [], []⟩ left state ∧
    state.store.cursorCell zeroStamp.id = some (.number 1) ∧
    .handled 1 ∈ state.log ∧ .recorded 1 ∈ state.log := by
  -- The feed asks for the status and for one page, and hands over the block.
  have asked : Chain.Feed.Reachable Chain.Event.streamedTypes 1 _ := .start
  have told := asked.step (.answer statusOne) rfl
  have found := told.step (.answer emptyPage) rfl
  have handed := found.step .deliver rfl
  have received := handed.step .receive rfl
  have supervises : Supervises zeroStamp.id (· = 0) (supervise fromGenesis 1) :=
    ⟨fromGenesis, 1, rfl, rfl, rfl⟩
  have begun : Activity.Run (sharedAnswers zeroStamp.id).recorded
    (Supervises zeroStamp.id (· = 0)) (supervise fromGenesis 1) ⟨.empty, []⟩
    (supervise fromGenesis 1) ⟨.empty, []⟩ := .begin
  have absent := begun.answer_recorded ⟨_, rfl, Or.inl rfl⟩
  have stamped := absent.answer_recorded
    (show sharedAnswers _ .stamp _ zeroStamp _ from rfl)
  have created := stamped.answer_recorded ⟨_, rfl, Or.inl rfl⟩
  have opened := created.answer_recorded ⟨_, rfl, Or.inl rfl⟩
  have delivered := opened.answer_recorded ⟨rfl, _, received, rfl⟩
  have restamped := delivered.answer_recorded
    (show sharedAnswers _ .stamp _ zeroStamp _ from rfl)
  have moved := restamped.answer_recorded ⟨_, rfl, Or.inl rfl⟩
  obtain ⟨_, lifts, gapless⟩ := @no_block_is_skipped zeroStamp.id (· = 0) .empty rfl
  obtain ⟨left, log, _, marked⟩ := lifts supervises moved
  obtain ⟨stored, complete⟩ := gapless marked
  obtain ⟨epoch, cursor, rfl, _, number, _, _, passed⟩ := complete.covered stored
  obtain rfl : 1 = cursor := Store.Cell.natural_inj number
  exact ⟨left, _, marked, rfl, passed 1 (by decide) (by decide)⟩

end Settlement.Coverage
