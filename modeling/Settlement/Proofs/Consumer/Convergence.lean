import Settlement.Proofs.Consumer.Handling
import Settlement.Proofs.Store.Readable

/-!
Restarting converges: whatever interrupts a consumer, and however often, at the moment its
cursor arrives at a height the records are the reference for that height. Between two
cursor writes some of the steps of the next batch have been taken, at least up to the one
under way in the current attempt.
-/

namespace Settlement

namespace Intake

variable {intake : Intake} {batch : Chain.Batch} {before records after : Records}

def Underway (intake : Intake) (batch : Chain.Batch) (before : Records) (least : Nat)
    (records : Records) : Prop :=
  ∃ count, least ≤ count ∧ count ≤ (intake.steps batch).length ∧
    progress (intake.steps batch) before count = some records

theorem Underway.weaken {least most : Nat} (le : least ≤ most)
    (underway : intake.Underway batch before most records) :
    intake.Underway batch before least records := by
  obtain ⟨count, enough, rest⟩ := underway
  exact ⟨count, Nat.le_trans le enough, rest⟩

theorem Underway.step {index : Nat} {step : Records → Option Records}
    (next : (intake.steps batch)[index]? = some step)
    (underway : intake.Underway batch before index records)
    (taken : step records = some after) :
    intake.Underway batch before (index + 1) after := by
  obtain ⟨count, enough, bound, reached⟩ := underway
  have inside : index < (intake.steps batch).length := (List.getElem?_eq_some_iff.mp next).1
  rcases Nat.lt_or_eq_of_le enough with earlier | rfl
  · -- An earlier attempt has taken the step already.
    rw [progress_again earlier bound next reached] at taken
    cases taken
    exact ⟨count, earlier, bound, reached⟩
  · -- No attempt has come this far, so this is the next step of the reference.
    refine ⟨index + 1, Nat.le_refl _, inside, ?_⟩
    rw [progress_succ next, reached]
    exact taken

theorem Underway.stuck {index : Nat} {step : Records → Option Records}
    (next : (intake.steps batch)[index]? = some step)
    (underway : intake.Underway batch before index records) (stuck : step records = none) :
    progress (intake.steps batch) before (intake.steps batch).length = none := by
  obtain ⟨count, enough, bound, reached⟩ := underway
  have inside : index < (intake.steps batch).length := (List.getElem?_eq_some_iff.mp next).1
  rcases Nat.lt_or_eq_of_le enough with earlier | rfl
  · rw [progress_again earlier bound next reached] at stuck
    cases stuck
  · cases late : progress (intake.steps batch) before (intake.steps batch).length with
    | none => rfl
    | some final =>
        obtain ⟨middle, stepped⟩ := progress_reaches inside (Nat.le_refl _) late
        rw [progress_succ next, reached, Option.bind_some, stuck] at stepped
        cases stepped

theorem Underway.finished
    (underway : intake.Underway batch before (intake.steps batch).length records) :
    progress (intake.steps batch) before (intake.steps batch).length = some records := by
  obtain ⟨count, enough, bound, reached⟩ := underway
  rwa [Nat.le_antisymm bound enough] at reached

theorem steps_event {index : Nat} {observed : Consumer.Observed}
    (found : (intake.observed batch)[index]? = some observed) :
    (intake.steps batch)[index]? = some (intake.accept observed) := by
  have inside := (List.getElem?_eq_some_iff.mp found).1
  rw [steps, List.getElem?_append_left (by simpa using inside), List.getElem?_map, found]
  rfl

theorem steps_ledger :
    (intake.steps batch)[(intake.observed batch).length]? = some (intake.append batch) := by
  rw [steps, List.getElem?_append_right (by simp)]
  simp

theorem steps_length : (intake.steps batch).length = (intake.observed batch).length + 1 := by
  simp [steps]

theorem reference_succ {origin : Records} {batches : Nat}
    (fits : intake.settings.epoch + (batches + 1) ≤ Text.Decimal.maxSigned) :
    intake.reference origin (batches + 1) = (intake.reference origin batches).bind fun before =>
      let steps := intake.steps (intake.history.batch (intake.settings.epoch + (batches + 1)))
      progress steps before steps.length := by
  simp only [reference, fits, if_true]
  rfl

theorem reference_none {origin : Records} {first last : Nat} (le : first ≤ last)
    (unreached : intake.reference origin first = none) :
    intake.reference origin last = none := by
  induction last, le using Nat.le_induction with
  | base => exact unreached
  | succ last _ ih => simp [reference, ih]

theorem reference_fits {origin : Records} {batches : Nat}
    (reached : intake.reference origin batches = some records) :
    intake.settings.epoch + batches ≤ Text.Decimal.maxSigned := by
  cases batches with
  | zero =>
      by_cases fits : intake.settings.epoch ≤ Text.Decimal.maxSigned
      · exact fits
      · simp [reference, fits] at reached
  | succ batches =>
      obtain ⟨before, _, rest⟩ := Option.bind_eq_some_iff.mp reached
      by_cases fits : intake.settings.epoch + (batches + 1) ≤ Text.Decimal.maxSigned
      · exact fits
      · simp [fits] at rest

end Intake

namespace Consumer

open Activity

/-- The cursor has moved on by the given number of batches, and of the batch after them at
least the given number of steps have been taken. -/
structure Reached (intake : Intake) (sound : Store → Prop) (origin : Records)
    (batches least : Nat) (store : Store) : Prop where
  known : Known intake store
  sound : sound store
  cursor : store.cursorCell intake.settings.stream =
    some (.number (intake.settings.epoch + batches : Nat))
  underway : ∃ before, intake.reference origin batches = some before ∧
    intake.Underway (intake.history.batch (intake.settings.epoch + (batches + 1))) before least
      store.records

structure Arrived (intake : Intake) (sound : Store → Prop) (origin : Records)
    (batches : Nat) (store : Store) : Prop where
  reached : Reached intake sound origin batches 0 store
  exact : intake.reference origin batches = some store.records

/-- Before the first run there is no cursor and nothing has been handled. -/
structure Untouched (intake : Intake) (sound : Store → Prop) (origin : Records)
    (store : Store) : Prop where
  known : Known intake store
  sound : sound store
  cursor : store.cursorCell intake.settings.stream = none
  records : store.records = origin

def Consistent (intake : Intake) (sound : Store → Prop) (origin : Records)
    (store : Store) : Prop :=
  Untouched intake sound origin store ∨ ∃ batches, Reached intake sound origin batches 0 store

/-- A step keeps the tables consistent, and one that brings the cursor to a height finds the
reference records for it. -/
def Advances (intake : Intake) (sound : Store → Prop) (origin : Records)
    (before after : Store) : Prop :=
  Consistent intake sound origin after ∧ ∀ batches : Nat,
    before.cursorCell intake.settings.stream ≠
      some (.number (intake.settings.epoch + batches : Nat)) →
    after.cursorCell intake.settings.stream =
      some (.number (intake.settings.epoch + batches : Nat)) →
    intake.reference origin batches = some after.records

section Convergence

variable {intake : Intake} {answers : Answering Store} {sound : Store → Prop}
  {last : Nat} {cut disturbed : Prop} {origin : Records}

theorem Reached.weaken {batches least most : Nat} {store : Store} (le : least ≤ most)
    (reached : Reached intake sound origin batches most store) :
    Reached intake sound origin batches least store := by
  obtain ⟨before, complete, underway⟩ := reached.underway
  exact { reached with underway := ⟨before, complete, underway.weaken le⟩ }

theorem Reached.step {batches index : Nat} {start after : Store}
    {step : Records → Option Records}
    (reached : Reached intake sound origin batches index start)
    (next : (intake.steps (intake.history.batch
      (intake.settings.epoch + (batches + 1))))[index]? = some step)
    (framed : Store.Framed start after) (kept : sound after)
    (taken : step start.records = some after.records) :
    Reached intake sound origin batches (index + 1) after := by
  obtain ⟨before, complete, underway⟩ := reached.underway
  exact ⟨reached.known.framed framed, kept,
    by rw [Store.cursorCell, framed.cursors]; exact reached.cursor,
    before, complete, underway.step next taken⟩

theorem Reached.idle {batches index : Nat} {start after : Store}
    (reached : Reached intake sound origin batches index start)
    (framed : Store.Framed start after) (kept : sound after)
    (unmoved : after.records = start.records) :
    Reached intake sound origin batches index after :=
  ⟨reached.known.framed framed, kept,
    by rw [Store.cursorCell, framed.cursors]; exact reached.cursor,
    by rw [unmoved]; exact reached.underway⟩

theorem Reached.stuck {batches index : Nat} {store : Store} {step : Records → Option Records}
    (reached : Reached intake sound origin batches index store)
    (next : (intake.steps (intake.history.batch
      (intake.settings.epoch + (batches + 1))))[index]? = some step)
    (stuck : step store.records = none) :
    intake.reference origin (batches + 1) = none := by
  obtain ⟨before, complete, underway⟩ := reached.underway
  have unfinished := underway.stuck next stuck
  simp [Intake.reference, complete, unfinished]

theorem Reached.allowsStep {batches index : Nat} {start : Store}
    {step : Records → Option Records}
    (reached : Reached intake sound origin batches index start)
    (next : (intake.steps (intake.history.batch
      (intake.settings.epoch + (batches + 1))))[index]? = some step) :
    AllowsStep (Advances intake sound origin) sound step start := by
  intro before after framed framedAfter kept _ taken
  refine ⟨Or.inr ⟨batches, ?_⟩, ?_⟩
  · rcases taken with unmoved | taken
    · exact (reached.idle framedAfter kept unmoved).weaken (Nat.zero_le _)
    · exact (reached.step next framedAfter kept taken).weaken (Nat.zero_le _)
  · intro batches moved arrived
    rw [Store.cursorCell, framed.cursors] at moved
    rw [Store.cursorCell, framedAfter.cursors] at arrived
    exact absurd arrived moved

theorem Reached.stepped {ε α : Type} {batches index : Nat} {start after : Store}
    {step : Records → Option Records} {failure : ε}
    (reached : Reached intake sound origin batches index start)
    (next : (intake.steps (intake.history.batch
      (intake.settings.epoch + (batches + 1))))[index]? = some step)
    (stepped : Stepped sound disturbed step start (.error failure : Except ε α) after) :
    Reached intake sound origin batches 0 after ∧
      (disturbed ∨ intake.reference origin (batches + 1) = none) := by
  obtain ⟨framed, kept, taken, cause⟩ := stepped
  refine ⟨?_, cause.imp_right (reached.stuck next)⟩
  rcases taken with unmoved | taken
  · exact (reached.idle framed kept unmoved).weaken (Nat.zero_le _)
  · exact (reached.step next framed kept taken).weaken (Nat.zero_le _)

def BatchDone (intake : Intake) (sound : Store → Prop) (disturbed : Prop) (origin : Records)
    (batches most : Nat) {ε α : Type} (result : Except ε α) (after : Store) : Prop :=
  match result with
  | .ok _ => Reached intake sound origin batches most after
  | .error _ => Reached intake sound origin batches 0 after ∧
      (disturbed ∨ intake.reference origin (batches + 1) = none)

variable (conduct : Conduct intake answers sound last cut disturbed)

include conduct

theorem keeps_events {batches index : Nat} {start : Store} {rest : List Observed}
    (reached : Reached intake sound origin batches index start)
    (remaining : (intake.observed (intake.history.batch
      (intake.settings.epoch + (batches + 1)))).drop index = rest) :
    (forEach (handleObserved intake.settings) rest).Keeps answers
      (Advances intake sound origin)
      (BatchDone intake sound disturbed origin batches (index + rest.length)) start := by
  induction rest generalizing index start with
  | nil => exact reached
  | cons observed rest ih =>
      have found : (intake.observed (intake.history.batch
          (intake.settings.epoch + (batches + 1))))[index]? = some observed := by
        rw [← List.head?_drop, remaining]
        rfl
      have next := Intake.steps_event found
      refine (keeps_handleObserved conduct observed start reached.sound reached.known
        (reached.allowsStep next)).bind ?_ ?_
      · rintro _ after ⟨framed, kept, taken⟩
        have tail : (intake.observed (intake.history.batch
            (intake.settings.epoch + (batches + 1)))).drop (index + 1) = rest := by
          rw [← List.drop_drop, remaining]
          rfl
        have handled := ih (reached.step next framed kept taken) tail
        rwa [List.length_cons, Nat.add_comm rest.length, ← Nat.add_assoc]
      · intro failure after stepped
        exact reached.stepped next stepped

theorem keeps_handleBatch {batches : Nat} {start : Store}
    (reached : Reached intake sound origin batches 0 start) :
    (handleBatch intake.settings
      (intake.history.batch (intake.settings.epoch + (batches + 1)))).Keeps answers
      (Advances intake sound origin)
      (BatchDone intake sound disturbed origin batches (intake.steps (intake.history.batch
        (intake.settings.epoch + (batches + 1)))).length) start := by
  refine (keeps_events conduct reached (List.drop_zero)).bind ?_ ?_
  · intro _ middle handled
    rw [keeps_discard, Intake.steps_length]
    rw [Nat.zero_add] at handled
    have recorded := keeps_recordBlock conduct _ middle handled.sound handled.known
      (handled.allowsStep Intake.steps_ledger)
    refine recorded.mono fun result after stepped => ?_
    cases result with
    | ok count => exact handled.step Intake.steps_ledger stepped.1 stepped.2.1 stepped.2.2
    | error failure => exact handled.stepped Intake.steps_ledger stepped
  · intro failure after failed
    exact failed

omit conduct in
theorem keeps_storedHeight {post : Except Failure Int → Store → Prop} {height : Nat}
    {start : Store} (fits : height ≤ Text.Decimal.maxSigned → post (.ok height) start)
    (overflows : ¬ height ≤ Text.Decimal.maxSigned → ∀ failure, post (.error failure) start) :
    (storedHeight height).Keeps answers allowed post start := by
  unfold storedHeight Height.stored?
  by_cases small : height ≤ Text.Decimal.maxSigned
  · rw [if_pos small]
    exact fits small
  · rw [if_neg small]
    exact overflows small _

omit conduct in
theorem Reached.stay {batches least : Nat} {store : Store}
    (reached : Reached intake sound origin batches least store) :
    Advances intake sound origin store store :=
  ⟨Or.inr ⟨batches, reached.weaken (Nat.zero_le least)⟩, fun _ moved arrived =>
    absurd arrived moved⟩

omit conduct in
theorem Arrived.advances {batches : Nat} {before after : Store}
    (arrived : Arrived intake sound origin batches after) :
    Advances intake sound origin before after := by
  constructor
  · exact Or.inr ⟨batches, arrived.reached⟩
  · intro other _ there
    rw [arrived.reached.cursor] at there
    have heights := Store.Cell.natural_inj (Option.some.inj there)
    have same : other = batches := by omega
    rw [same]
    exact arrived.exact

omit conduct in
theorem Reached.arrive {batches : Nat} {start : Store} (now : Timestamp)
    (fits : intake.settings.epoch + (batches + 1) ≤ Text.Decimal.maxSigned)
    (reached : Reached intake sound origin batches (intake.steps (intake.history.batch
      (intake.settings.epoch + (batches + 1)))).length start)
    (kept : sound ((Store.Statement.moveCursor intake.settings.stream
      (intake.settings.epoch + (batches + 1) : Nat) now).run start).2) :
    let after := ((Store.Statement.moveCursor intake.settings.stream
      (intake.settings.epoch + (batches + 1) : Nat) now).run start).2
    Arrived intake sound origin (batches + 1) after ∧ Advances intake sound origin start after := by
  obtain ⟨before, complete, underway⟩ := reached.underway
  have arrived := Store.cursorCell_moveCursor
    (intake.settings.epoch + (batches + 1) : Nat) now reached.cursor
  have finished : intake.reference origin (batches + 1) = some start.records := by
    rw [Intake.reference_succ fits, complete]
    exact underway.finished
  have next : Reached intake sound origin (batches + 1) 0
      ((Store.Statement.moveCursor intake.settings.stream
        (intake.settings.epoch + (batches + 1) : Nat) now).run start).2 :=
    ⟨⟨reached.known.registrations, reached.known.tracked⟩, kept, arrived, start.records,
      finished, 0, Nat.le_refl 0, Nat.zero_le _, progress_zero⟩
  have exactly : Arrived intake sound origin (batches + 1) _ := ⟨next, finished⟩
  exact ⟨exactly, exactly.advances⟩

/-- The end of an attempt: the cursor has moved on by the given number of batches, exactly if
it did so at the start, or something failed, at the latest in the batch of that number. -/
def Ended (intake : Intake) (sound : Store → Prop) (disturbed : Prop) (origin : Records)
    (batches : Nat) (exactly : Prop) (result : Except Failure Unit) (after : Store) : Prop :=
  match result with
  | .ok _ => Reached intake sound origin batches 0 after ∧
      (exactly → Arrived intake sound origin batches after)
  | .error _ => Consistent intake sound origin after ∧
      (disturbed ∨ intake.reference origin batches = none)

omit conduct in
theorem Ended.consistent {batches : Nat} {exactly : Prop} {result : Except Failure Unit}
    {after : Store}
    (ended : Ended intake sound disturbed origin batches exactly result after) :
    Consistent intake sound origin after := by
  cases result with
  | ok _ => exact Or.inr ⟨batches, ended.1⟩
  | error failure => exact ended.1

theorem keeps_moveCursor {batches : Nat} {start : Store} (now : Timestamp)
    (fits : intake.settings.epoch + (batches + 1) ≤ Text.Decimal.maxSigned)
    (handled : Reached intake sound origin batches (intake.steps (intake.history.batch
      (intake.settings.epoch + (batches + 1)))).length start) :
    (storage (.moveCursor intake.settings.stream
      (intake.settings.epoch + (batches + 1) : Nat) now)).Keeps answers
      (Advances intake sound origin) (Ended intake sound disturbed origin (batches + 1) True)
      start := by
  refine (keeps_storage _).mpr fun reply after answered => ?_
  have keptAfter := conduct.keeps answered handled.sound
  have written := conduct.write handled.sound answered
  cases reply with
  | ok _ =>
      obtain ⟨_, ran⟩ := written
      obtain rfl : _ = after := congrArg Prod.snd ran
      obtain ⟨next, advances⟩ := handled.arrive now fits keptAfter
      exact ⟨advances, next.reached, fun _ => next⟩
  | error fault =>
      -- The cursor may have moved although the call failed; the next attempt starts there.
      obtain ⟨cause, rfl | ⟨_, rfl⟩⟩ := written
      · exact ⟨handled.stay, Or.inr ⟨batches, handled.weaken (Nat.zero_le _)⟩, Or.inl cause⟩
      · obtain ⟨next, advances⟩ := handled.arrive now fits keptAfter
        exact ⟨advances, Or.inr ⟨batches + 1, next.reached⟩, Or.inl cause⟩

theorem keeps_consumeItem {batches : Nat} {start : Store}
    (reached : Reached intake sound origin batches 0 start) :
    (consumeItem intake.settings (.ok (intake.history.batch
      (intake.settings.epoch + (batches + 1))))).Keeps answers (Advances intake sound origin)
      (Ended intake sound disturbed origin (batches + 1) True) start := by
  refine (keeps_bind _ _ _).mpr ((keeps_mapFailure _ _ _).mpr ?_)
  refine (keeps_handleBatch conduct reached).mono fun result middle handled => ?_
  cases result with
  | ok _ =>
      change Activity.Keeps answers _ _ _ middle
      rw [intake.history.batch_height, keeps_bind]
      refine keeps_storedHeight ?_ ?_
      · intro fits stamp middle answered
        obtain rfl := conduct.within answered
        exact ⟨handled.stay, keeps_moveCursor conduct stamp.time fits handled⟩
      · -- The height cannot be stored, and the reference ends below it as well.
        intro overflows failure
        refine ⟨Or.inr ⟨batches, handled.weaken (Nat.zero_le _)⟩, Or.inr ?_⟩
        simp [Intake.reference, overflows]
  | error failure => exact ⟨Or.inr ⟨batches, handled.1⟩, handled.2⟩

theorem keeps_items {batches count : Nat} {start : Store}
    {ending : List (Except Chain.Failure Chain.Batch)}
    (reached : Reached intake sound origin batches 0 start)
    (ends : ending = [] ∨ disturbed ∧ ∃ failure, ending = [.error failure]) :
    (forEach (consumeItem intake.settings)
      ((List.range' (intake.settings.epoch + (batches + 1)) count).map
        (fun height => .ok (intake.history.batch height)) ++ ending)).Keeps answers
      (Advances intake sound origin) (Ended intake sound disturbed origin (batches + count)
        (Arrived intake sound origin batches start)) start := by
  -- The cursor goes up by one with each batch, so the sum with those to come stays the same.
  induction count generalizing batches start with
  | zero =>
      rcases ends with rfl | ⟨cause, failure, rfl⟩
      · exact ⟨reached, id⟩
      · exact ⟨Or.inr ⟨batches, reached⟩, Or.inl cause⟩
  | succ count ih =>
      refine (keeps_consumeItem conduct reached).bind ?_ ?_
      · rintro _ after ⟨next, exactly⟩
        have same : batches + (count + 1) = batches + 1 + count := by omega
        rw [same]
        refine (ih next).mono fun result final ended => ?_
        cases result with
        | ok _ => exact ⟨ended.1, fun _ => ended.2 (exactly trivial)⟩
        | error failure => exact ended
      · rintro failure after ⟨consistent, cause⟩
        exact ⟨consistent, cause.imp_right (Intake.reference_none (by omega))⟩

theorem keeps_readCursor {batches least : Nat} {start : Store}
    (reached : Reached intake sound origin batches least start) :
    (storage (.cursor intake.settings.stream)).Keeps answers (Advances intake sound origin)
      (fun result after => after = start ∧
        match result with
        | .ok found => ∃ cursor, found = some cursor ∧
            cursor.height = (intake.settings.epoch + batches : Nat)
        | .error _ => disturbed) start := by
  refine (keeps_storage _).mpr fun reply after answered => ?_
  obtain ⟨rfl, told⟩ := conduct.read rfl reached.sound answered
  refine ⟨reached.stay, rfl, ?_⟩
  cases reply with
  | error fault => exact told
  | ok found =>
      have stored := reached.cursor
      cases found with
      | none =>
          rw [Store.cursorCell_none told] at stored
          cases stored
      | some cursor =>
          rw [Store.cursorCell_some told] at stored
          simp only [Option.some.injEq, Store.Cell.number.injEq] at stored
          exact ⟨cursor, rfl, stored⟩

def Opened (intake : Intake) (sound : Store → Prop) (disturbed : Prop) (origin : Records)
    (start : Store) (result : Except Failure Store.Cursor) (after : Store) : Prop :=
  match result with
  | .ok cursor => ∃ batches, Reached intake sound origin batches 0 after ∧
      cursor.height = (intake.settings.epoch + batches : Nat) ∧
      (start.cursorCell intake.settings.stream = none →
        batches = 0 ∧ Arrived intake sound origin batches after)
  | .error _ => Consistent intake sound origin after ∧
      (disturbed ∨ intake.reference origin 0 = none)

omit conduct in
theorem Untouched.stay {store : Store} (untouched : Untouched intake sound origin store) :
    Advances intake sound origin store store :=
  ⟨Or.inl untouched, fun _ moved arrived => absurd arrived moved⟩

omit conduct in
theorem Untouched.create {start : Store} (now : Timestamp)
    (fits : intake.settings.epoch ≤ Text.Decimal.maxSigned)
    (untouched : Untouched intake sound origin start)
    (kept : sound ((Store.Statement.addCursor intake.settings.stream intake.settings.epoch
      now).run start).2) :
    let after := ((Store.Statement.addCursor intake.settings.stream intake.settings.epoch
      now).run start).2
    Arrived intake sound origin 0 after ∧ Advances intake sound origin start after := by
  have arrived := Store.cursorCell_addCursor intake.settings.epoch now untouched.cursor
  have begun : intake.reference origin 0 = some start.records := by
    rw [untouched.records]
    exact if_pos fits
  have next : Reached intake sound origin 0 0 ((Store.Statement.addCursor intake.settings.stream
      intake.settings.epoch now).run start).2 :=
    ⟨⟨untouched.known.registrations, untouched.known.tracked⟩, kept, arrived, start.records,
      begun, 0, Nat.le_refl 0, Nat.zero_le _, progress_zero⟩
  have exactly : Arrived intake sound origin 0 _ := ⟨next, begun⟩
  exact ⟨exactly, exactly.advances⟩

theorem keeps_openCursor {start : Store} (consistent : Consistent intake sound origin start) :
    (openCursor intake.settings).Keeps answers (Advances intake sound origin)
      (Opened intake sound disturbed origin start) start := by
  rcases consistent with untouched | ⟨batches, reached⟩
  · refine (keeps_bind _ _ _).mpr ((keeps_storage _).mpr fun reply after answered => ?_)
    obtain ⟨rfl, told⟩ := conduct.read rfl untouched.sound answered
    refine ⟨untouched.stay, ?_⟩
    cases reply with
    | error fault => exact ⟨Or.inl untouched, Or.inl told⟩
    | ok found =>
        cases found with
        | some cursor =>
            have stored := untouched.cursor
            rw [Store.cursorCell_some told] at stored
            cases stored
        -- On the first run the cursor is created at the epoch and read back.
        | none =>
            refine (keeps_bind _ _ _).mpr (keeps_storedHeight ?_ ?_)
            · intro fits stamp start answered
              obtain rfl := conduct.within answered
              refine ⟨untouched.stay, ?_⟩
              intro reply after answered
              have keptAfter := conduct.keeps answered untouched.sound
              have written := conduct.write untouched.sound answered
              cases reply with
              | ok _ =>
                  obtain ⟨_, ran⟩ := written
                  obtain rfl : _ = after := congrArg Prod.snd ran
                  obtain ⟨next, advances⟩ := untouched.create stamp.time fits keptAfter
                  refine ⟨advances, (keeps_readCursor conduct next.reached).bind ?_ ?_⟩
                  · rintro _ _ ⟨rfl, cursor, rfl, height⟩
                    exact ⟨0, next.reached, height, fun _ => ⟨rfl, next⟩⟩
                  · rintro failure _ ⟨rfl, cause⟩
                    exact ⟨Or.inr ⟨0, next.reached⟩, Or.inl cause⟩
              | error fault =>
                  obtain ⟨cause, rfl | ⟨_, rfl⟩⟩ := written
                  · exact ⟨untouched.stay, Or.inl untouched, Or.inl cause⟩
                  · obtain ⟨next, advances⟩ := untouched.create stamp.time fits keptAfter
                    exact ⟨advances, Or.inr ⟨0, next.reached⟩, Or.inl cause⟩
            · -- An epoch that cannot be stored leaves the reference without a start.
              intro overflows failure
              exact ⟨Or.inl untouched, Or.inr (if_neg overflows)⟩
  · refine (keeps_readCursor conduct reached).bind ?_ ?_
    · rintro _ _ ⟨rfl, cursor, rfl, height⟩
      refine ⟨batches, reached, height, fun absent => ?_⟩
      rw [reached.cursor] at absent
      cases absent
    · rintro failure _ ⟨rfl, cause⟩
      exact ⟨Or.inr ⟨batches, reached⟩, Or.inl cause⟩

def Finished (intake : Intake) (sound : Store → Prop) (disturbed : Prop) (last : Nat)
    (origin : Records) (result : Except Failure Unit) (after : Store) : Prop :=
  match result with
  | .ok _ => Arrived intake sound origin (last - intake.settings.epoch) after
  | .error _ => disturbed ∨ intake.reference origin (last - intake.settings.epoch) = none

theorem keeps_consume {start : Store} (consistent : Consistent intake sound origin start) :
    (consume intake.settings).Keeps answers (Advances intake sound origin)
      (fun result after => Consistent intake sound origin after ∧
        (start.cursorCell intake.settings.stream = none →
          cut ∨ Finished intake sound disturbed last origin result after)) start := by
  refine (keeps_openCursor conduct consistent).bind ?_ ?_
  · rintro cursor middle ⟨batches, reached, height, first⟩
    obtain ⟨before, complete, _⟩ := reached.underway
    rw [height, Height.next?_shown (Intake.reference_fits complete)]
    intro items after answered
    obtain ⟨rfl, delivered⟩ := conduct.within answered
    refine ⟨reached.stay, ?_⟩
    -- A stream that was cut short may end anywhere, another one ends with the last batch.
    rcases conduct.stream answered with ⟨short, cause⟩ | rfl
    · obtain ⟨count, ending, rfl, ends⟩ := delivered
      refine (keeps_items conduct reached (ends.imp_right (And.intro cause))).mono ?_
      exact fun result final ended => ⟨ended.consistent, fun _ => Or.inl short⟩
    · rw [← List.append_nil (List.map _ _)]
      refine (keeps_items conduct reached (Or.inl rfl)).mono ?_
      refine fun result final ended => ⟨ended.consistent, fun absent => Or.inr ?_⟩
      obtain ⟨rfl, arrivedFirst⟩ := first absent
      have arrived : 0 + (last + 1 - (intake.settings.epoch + 0 + 1)) =
          last - intake.settings.epoch := by omega
      rw [arrived] at ended
      cases result with
      | ok _ => exact ended.2 arrivedFirst
      | error failure => exact ended.2
  · rintro failure after ⟨kept, cause⟩
    exact ⟨kept, fun _ => Or.inr (cause.imp_right (Intake.reference_none (Nat.zero_le _)))⟩

end Convergence
end Consumer

/-- The history answers and nothing fails; every stream ends with the last batch. -/
def History.steady (history : History) (last : Nat) : Answering Store
  | .storage statement, before, reply, after =>
      statement.IsFresh before ∧ statement.run before = (reply, after)
  | .transaction txHash, before, reply, after =>
      after = before ∧ reply = .ok (history.transaction txHash)
  | .block height, before, reply, after => after = before ∧ reply = .ok (history.block height)
  | .openStream _ height, before, items, after => after = before ∧
      items = (List.range' height (last + 1 - height)).map fun h => .ok (history.batch h)
  | .stamp, before, _, after | .times, before, _, after | .clock, before, _, after
  | .notifyBank _, before, _, after =>
      after = before

theorem History.answers_steady (history : History) (last : Nat) {request : Request}
    {before after : Store} {reply : request.Reply}
    (answered : history.steady last request before reply after) :
    history.answers request before reply after := by
  cases request with
  | storage statement => exact Or.inl answered
  | transaction txHash => exact ⟨answered.1, Or.inl answered.2⟩
  | block height => exact ⟨answered.1, Or.inl answered.2⟩
  | openStream types height =>
      exact ⟨answered.1, last + 1 - height, [], by rw [answered.2, List.append_nil], Or.inl rfl⟩
  | notifyBank message => exact answered
  | stamp => exact answered
  | times => exact answered
  | clock => exact answered

theorem Intake.conduct_answers (intake : Intake) (last : Nat) :
    Conduct intake intake.history.answers (fun _ => True) last True True where
  within := id
  keeps := fun _ _ => trivial
  storage := fun _ _ => trivial
  transaction := fun _ => trivial
  block := fun _ => trivial
  stream := fun _ => Or.inl ⟨trivial, trivial⟩

theorem Intake.conduct_steady (intake : Intake) (last : Nat) :
    Conduct intake (intake.history.steady last) (fun _ => True) last False True where
  within := intake.history.answers_steady last
  keeps := fun _ _ => trivial
  storage := fun _ _ => trivial
  transaction := fun _ => trivial
  block := fun _ => trivial
  stream := fun answered => Or.inr answered.2

theorem Intake.conduct_readable (intake : Intake) (last : Nat) :
    Conduct intake (intake.history.steady last) Store.Readable last False False where
  within := intake.history.answers_steady last
  keeps := by
    intro request before reply after answered readable
    cases request with
    | storage statement =>
        have kept := (statement.run_readable readable).2
        rwa [answered.2] at kept
    | transaction txHash => exact answered.1 ▸ readable
    | block height => exact answered.1 ▸ readable
    | openStream types height => exact answered.1 ▸ readable
    | notifyBank message => exact Eq.symm answered ▸ readable
    | stamp => exact Eq.symm answered ▸ readable
    | times => exact Eq.symm answered ▸ readable
    | clock => exact Eq.symm answered ▸ readable
  storage := by
    intro statement before fault after answered readable
    obtain ⟨value, succeeded⟩ := (statement.run_readable readable).1
    rw [answered.2] at succeeded
    cases succeeded
  transaction := fun answered => by cases answered.2
  block := fun answered => by cases answered.2
  stream := fun answered => Or.inr answered.2

namespace Consumer

open Activity

variable {intake : Intake} {start : Store}

/-- Whatever failed and however often the consumer was started over: when the cursor arrives
at a height, the records are the reference for it. -/
theorem reference_at_cursor {before after : Store} {request : Request}
    {next : request.Reply → Activity Failure Unit} {reply : request.Reply} {height : Nat}
    (known : Known intake start)
    (unstarted : start.cursorCell intake.settings.stream = none)
    (run : Run intake.history.answers (· = consume intake.settings) (consume intake.settings)
      start (.ask request next) before)
    (answered : intake.history.answers request before reply after)
    (elsewhere : before.cursorCell intake.settings.stream ≠ some (.number height))
    (written : after.cursorCell intake.settings.stream = some (.number height)) :
    intake.settings.epoch ≤ height ∧
      intake.reference start.records (height - intake.settings.epoch) = some after.records := by
  have conduct := intake.conduct_answers 0
  have untouched : Untouched intake (fun _ => True) start.records start :=
    ⟨known, trivial, unstarted, rfl⟩
  have closed : ∀ before after, Advances intake (fun _ => True) start.records before after →
      Consistent intake (fun _ => True) start.records after := fun _ _ step => step.1
  have attempts : ∀ program, program = consume intake.settings →
      ∀ state, Consistent intake (fun _ => True) start.records state →
        program.Keeps intake.history.answers (Advances intake (fun _ => True) start.records)
          (fun _ => Consistent intake (fun _ => True) start.records) state := by
    rintro _ rfl state consistent
    exact (keeps_consume conduct consistent).mono fun _ _ done => done.1
  have kept := run.keeps closed (Or.inl untouched) (attempts _ rfl start (Or.inl untouched))
    attempts
  -- The request that moved the cursor is the next one of a program that advances.
  obtain ⟨consistent, arrives⟩ := (kept.2 reply after answered).1
  rcases consistent with absent | ⟨batches, reached⟩
  · rw [absent.cursor] at written
    cases written
  · have same : height = intake.settings.epoch + batches :=
      Store.Cell.natural_inj (Option.some.inj (written.symm.trans reached.cursor))
    subst same
    refine ⟨Nat.le_add_right _ _, ?_⟩
    rw [Nat.add_sub_cancel_left]
    exact arrives batches elsewhere written

/-- Restarting converges: when the cursor arrives at a height, the records are those of one
uninterrupted run to that height, and such a run does get there if the tables that it starts
from can be read. -/
theorem restarts_converge {settings : Settings} {history : History}
    {start before after final : Store} {request : Request}
    {next : request.Reply → Activity Failure Unit} {reply : request.Reply}
    {height : Nat} {result : Except Failure Unit}
    (unstarted : start.cursorCell settings.stream = none)
    (run : Run history.answers (· = consume settings) (consume settings) start
      (.ask request next) before)
    (answered : history.answers request before reply after)
    (elsewhere : before.cursorCell settings.stream ≠ some (.number height))
    (written : after.cursorCell settings.stream = some (.number height))
    (uninterrupted : Run (history.steady height) (fun _ => False) (consume settings) start
      (.done result) final) :
    (result = .ok () → final.cursorCell settings.stream = some (.number height) ∧
      final.records = after.records) ∧
    (start.Readable → result = .ok ()) := by
  let intake : Intake := ⟨settings, history, start.tracked.map (·.txHash), start.registrations⟩
  have known : Known intake start := ⟨rfl, rfl⟩
  obtain ⟨least, complete⟩ :=
    reference_at_cursor known unstarted run answered elsewhere written
  -- The reference depends on the first tables alone, so both runs arrive at the same records.
  constructor
  · rintro rfl
    have untouched : Untouched intake (fun _ => True) start.records start :=
      ⟨known, trivial, unstarted, rfl⟩
    have finished := uninterrupted.keeps_once
      (keeps_consume (intake.conduct_steady height) (Or.inl untouched))
    rcases finished.2 unstarted with cut | arrived
    · exact cut.elim
    · have cursor := arrived.reached.cursor
      rw [Nat.add_sub_cancel' least] at cursor
      exact ⟨cursor, Option.some.inj (arrived.exact.symm.trans complete)⟩
  · intro readable
    have untouched : Untouched intake Store.Readable start.records start :=
      ⟨known, readable, unstarted, rfl⟩
    have finished := uninterrupted.keeps_once
      (keeps_consume (intake.conduct_readable height) (Or.inl untouched))
    cases result with
    | ok _ => rfl
    | error failure =>
        rcases finished.2 unstarted with cut | failed | unreached
        · exact cut.elim
        · exact failed.elim
        · rw [complete] at unreached
          cases unreached

def oneMigration : History where
  batch height := ⟨height, if height = 1 then
    [⟨Chain.Event.migrationType, "A1", 1, [("_contract_address", "c"), ("code_id", "7")]⟩]
    else []⟩
  batch_height _ := rfl
  transaction txHash := some ⟨txHash, 1, 0, ""⟩
  block height := ⟨height, zeroStamp.time⟩

/-- The reply to the insert is lost in the first attempt; the second attempt finds the row. -/
theorem converges_after_lost_reply : ∃ after final : Store,
    after.cursorCell zeroStamp.id = some (.number 1) ∧
    Run (oneMigration.steady 1) (fun _ => False) (consume fromGenesis) .empty
      (.done (.ok ())) final ∧
    final.cursorCell zeroStamp.id = some (.number 1) ∧ final.records = after.records ∧
    after.records.migrations = [("A1", "7")] := by
  have begun : Run oneMigration.answers (· = consume fromGenesis) (consume fromGenesis) .empty
    (consume fromGenesis) .empty := .begin
  -- The first attempt gets as far as the insert.
  have absent := begun.answer (Or.inl ⟨trivial, rfl⟩)
  have stamped := absent.answer (show oneMigration.answers .stamp _ zeroStamp _ from rfl)
  have created := stamped.answer (Or.inl ⟨trivial, rfl⟩)
  have opened := created.answer (Or.inl ⟨trivial, rfl⟩)
  have delivered := opened.answer (show oneMigration.answers (.openStream _ _) _
    [.ok (oneMigration.batch 1)] _ from ⟨rfl, 1, [], rfl, Or.inl rfl⟩)
  have untracked := delivered.answer (Or.inl ⟨trivial, rfl⟩)
  have unknown := untracked.answer (Or.inl ⟨trivial, rfl⟩)
  have confirmed := unknown.answer ⟨rfl, Or.inl rfl⟩
  have restamped := confirmed.answer (show oneMigration.answers .stamp _ zeroStamp _ from rfl)
  have lost := restamped.answer (show oneMigration.answers (.storage _) _ (.error .unavailable) _
    from Or.inr ⟨⟨.unavailable, rfl⟩, Or.inr ⟨(fun _ member => nomatch member), rfl⟩⟩)
  -- The second attempt goes on from the cursor at the epoch and finds the row.
  have again := lost.restart rfl
  have reopened := again.answer (Or.inl ⟨trivial, rfl⟩)
  have redelivered := reopened.answer (show oneMigration.answers (.openStream _ _) _
    [.ok (oneMigration.batch 1)] _ from ⟨rfl, 1, [], rfl, Or.inl rfl⟩)
  have stillUntracked := redelivered.answer (Or.inl ⟨trivial, rfl⟩)
  have found := stillUntracked.answer (Or.inl ⟨trivial, rfl⟩)
  have handled := found.answer (show oneMigration.answers .stamp _ zeroStamp _ from rfl)
  -- The run to compare with asks each question once.
  have undisturbed : Run (oneMigration.steady 1) (fun _ => False) (consume fromGenesis) .empty
    (consume fromGenesis) .empty := .begin
  have absent := undisturbed.answer ⟨trivial, rfl⟩
  have stamped := absent.answer (show oneMigration.steady 1 .stamp _ zeroStamp _ from rfl)
  have created := stamped.answer ⟨trivial, rfl⟩
  have opened := created.answer ⟨trivial, rfl⟩
  have delivered := opened.answer ⟨rfl, rfl⟩
  have untracked := delivered.answer ⟨trivial, rfl⟩
  have unknown := untracked.answer ⟨trivial, rfl⟩
  have confirmed := unknown.answer ⟨rfl, rfl⟩
  have restamped := confirmed.answer (show oneMigration.steady 1 .stamp _ zeroStamp _ from rfl)
  have inserted := restamped.answer ⟨(fun _ member => nomatch member), rfl⟩
  have finished := inserted.answer (show oneMigration.steady 1 .stamp _ zeroStamp _ from rfl)
  have moved := finished.answer ⟨trivial, rfl⟩
  have converged := restarts_converge rfl handled (Or.inl ⟨trivial, rfl⟩)
    (show _ ≠ some (Store.Cell.number (1 : Nat)) by decide) rfl moved
  obtain ⟨cursor, records⟩ := converged.1 rfl
  refine ⟨_, _, ?_, moved, cursor, records, ?_⟩ <;> rfl

end Consumer

end Settlement
