import Settlement.Api.Entry
import Settlement.Proofs.Store.Listing
import Settlement.Proofs.Time.Shown

/-!
What the ledger is given it gives back. Every column is read as what was written to it, so a
ledger that was built up by inserts is listed without a fault, its lines are the movements as they
were inserted, and the interface shows the same numbers and instants.
-/

namespace Settlement

theorem Height.shown_of_range {stored : Int} (least : 0 ≤ stored)
    (most : stored ≤ Text.Decimal.maxSigned) : (shown stored : Int) = stored := by
  unfold Text.Decimal.maxSigned at most
  unfold shown
  omega

namespace Store

def Movement.Fits (movement : Movement) : Prop :=
  0 ≤ movement.height ∧ movement.height ≤ Text.Decimal.maxSigned

/-- The rows come of movements that were inserted one after the other. -/
inductive BuiltUp : List MovementRow → Prop where
  | empty : BuiltUp []
  | insert {rows after : List MovementRow} {movement : Movement} {now : Timestamp} :
      BuiltUp rows → movement.Fits → addMovement rows (movement.row now) = some after →
      BuiltUp after

section Ledger

variable {rows after : List MovementRow} {movement : Movement} {now : Timestamp}

theorem Entry.fits_movement {entry : Entry} (made : entry.movement? = some movement) :
    movement.Fits := by
  obtain ⟨height, stored, same⟩ := Option.bind_eq_some_iff.mp made
  cases same
  unfold Height.stored? at stored
  split at stored <;> cases stored
  exact ⟨Int.natCast_nonneg _, Int.ofNat_le.mpr ‹_›⟩

theorem BuiltUp.append {entries : List Entry} {times : Nat → Timestamp} {count : Nat}
    (built : BuiltUp rows)
    (appended : appendEntries times entries rows = some (count, after)) : BuiltUp after :=
  appendEntries_keeps BuiltUp (fun made inserted built =>
    built.insert (Entry.fits_movement made) inserted) appended built

theorem BuiltUp.source (built : BuiltUp rows) : ∀ row ∈ rows,
    ∃ (movement : Movement) (now : Timestamp), movement.Fits ∧ row = movement.row now := by
  induction built with
  | empty => exact fun row member => absurd member List.not_mem_nil
  | insert _ fits inserted ih =>
      obtain ⟨_, rfl⟩ := addMovement_some_iff.mp inserted
      intro row member
      rcases List.mem_append.mp member with old | new
      · exact ih row old
      · exact ⟨_, _, fits, List.mem_singleton.mp new⟩

theorem BuiltUp.kept (built : BuiltUp rows) : Kept rows := by
  constructor
  · intro row member
    obtain ⟨movement, now, _, rfl⟩ := built.source row member
    exact ⟨movement, movement.read_row now⟩
  · induction built with
    | empty => exact .nil
    | insert _ _ inserted ih =>
        obtain ⟨free, rfl⟩ := addMovement_some_iff.mp inserted
        rw [List.map_append, List.nodup_append]
        refine ⟨ih, List.nodup_singleton _, ?_⟩
        rintro key old _ new rfl
        rw [List.mem_singleton.mp new] at old
        exact free old

variable {first last : Option Timestamp} {lines : List Listed}

theorem BuiltUp.listed_once (built : BuiltUp rows) (member : movement.row now ∈ rows)
    (within : (movement.row now).inWindow first last = true)
    (listed : list rows first last 0 (-1) = .ok lines) :
    ∃ before line behind, lines = before ++ line :: behind ∧ line.movement = movement ∧
      ∀ other ∈ before ++ behind, other.movement.key ≠ movement.key := by
  have kept := built.kept
  have shown : movement.row now ∈ window rows first last := mem_window.mpr ⟨member, within⟩
  have distinct : ((window rows first last).map (·.key)).Nodup :=
    kept.window_nodup.map_on fun row here other there same =>
      kept.key_inj (mem_window.mp here).1 (mem_window.mp there).1 same
  have whole : lines.map (·.movement.key) = (window rows first last).map (·.key) :=
    kept.listed_keys listed
  rw [← whole] at distinct
  obtain ⟨lower, upper, split⟩ := List.append_of_mem shown
  rw [split, List.map_append, List.map_cons] at whole
  obtain ⟨before, rest, rfl, _, tail⟩ := List.map_eq_append_iff.mp whole
  obtain ⟨line, behind, rfl, own, _⟩ := List.map_eq_cons_iff.mp tail
  have told : line.movement = movement := by
    have present : line ∈ before ++ line :: behind := List.mem_append_right _ List.mem_cons_self
    obtain ⟨row, there, reads⟩ := kept.listed_source listed present
    have same : row = movement.row now :=
      kept.key_inj (mem_window.mp there).1 member ((row.read_ok reads).1.trans own)
    rw [same, Movement.read_row] at reads
    exact (Except.ok.inj reads).symm
  refine ⟨before, line, behind, rfl, told, ?_⟩
  intro other there same
  rw [List.map_append, List.map_cons, List.nodup_middle, List.nodup_cons] at distinct
  refine distinct.1 ?_
  rw [told, ← same, ← List.map_append]
  exact List.mem_map.mpr ⟨other, there, rfl⟩

end Ledger

end Store

namespace Api

open Store (Movement MovementRow Listed BuiltUp)

/-- The entry says what the movement says, and the text of its time is read as the same time. -/
structure Entry.Shows (entry : Entry) (movement : Movement) : Prop where
  fromAddress : entry.fromAddress = movement.fromAddress
  fromBank : entry.fromBank = movement.fromBank
  toAddress : entry.toAddress = movement.toAddress
  toBank : entry.toBank = movement.toBank
  height : (entry.height : Int) = movement.height
  time : entry.time = movement.time
  text : Time.relaxed? entry.time.shown = some movement.time
  amount : entry.amount = movement.amount
  denom : entry.denom = movement.denom
  kind : entry.kind = movement.kind

theorem shows_ofListed {line : Listed} (fits : line.movement.Fits) :
    (Entry.ofListed line).Shows line.movement where
  fromAddress := rfl
  fromBank := rfl
  toAddress := rfl
  toBank := rfl
  height := Height.shown_of_range fits.1 fits.2
  time := rfl
  text := Time.relaxed?_shown line.movement.time
  amount := rfl
  denom := rfl
  kind := rfl

variable {rows : List MovementRow} {movement : Movement} {now : Timestamp}

/-- A movement whose key is new goes into the ledger whole. Then every listing succeeds, its lines
are movements as they were inserted and are shown as such, and where the window has room for the
new one, the listing of the window has exactly one line of its key, which is the movement itself. -/
theorem movements_are_read_back (built : BuiltUp rows) (fits : movement.Fits)
    (fresh : movement.key ∉ rows.map (·.key)) :
    ∃ after, Store.addMovement rows (movement.row now) = some after ∧
      (∀ first last offset limit, ∃ lines,
        Store.list after first last offset limit = .ok lines ∧ ∀ line ∈ lines,
          (Entry.ofListed line).Shows line.movement ∧
            ∃ created, line.movement.row created ∈ after) ∧
      ∀ first last lines, (movement.row now).inWindow first last = true →
        Store.list after first last 0 (-1) = .ok lines →
        ∃ before line behind, lines = before ++ line :: behind ∧ line.movement = movement ∧
          ∀ other ∈ before ++ behind, other.movement.key ≠ movement.key := by
  have inserted : Store.addMovement rows (movement.row now) = some (rows ++ [movement.row now]) :=
    Store.addMovement_some_iff.mpr ⟨fresh, rfl⟩
  have grown : BuiltUp (rows ++ [movement.row now]) := built.insert fits inserted
  refine ⟨_, inserted, ?_, fun first last lines within listed => ?_⟩
  · intro first last offset limit
    obtain ⟨lines, listed, _⟩ := grown.kept.listed first last offset limit
    refine ⟨lines, listed, fun line member => ?_⟩
    obtain ⟨row, there, reads⟩ := grown.kept.listed_source listed member
    have present := (Store.mem_window.mp there).1
    obtain ⟨source, created, height, rfl⟩ := grown.source row present
    rw [Movement.read_row] at reads
    obtain rfl := Except.ok.inj reads
    exact ⟨shows_ofListed height, created, present⟩
  · exact grown.listed_once (List.mem_append_right _ (List.mem_singleton_self _)) within listed

def earlyMovement : Movement where
  key := "A-0"
  legacyHash := some "A"
  fromAddress := ""
  fromBank := none
  toAddress := "x"
  toBank := none
  height := 0
  time := ⟨⟨0, 1, 1, 0, 0, 0, 0⟩, by decide⟩
  amount := "1"
  denom := "d"
  kind := .mint

/-- The greatest height, in the last nanosecond of a leap second. -/
def lateMovement : Movement where
  key := "B-0"
  legacyHash := none
  fromAddress := "x"
  fromBank := some .zero
  toAddress := ""
  toBank := some .zero
  height := Text.Decimal.maxSigned
  time := ⟨⟨9999, 12, 31, 23, 59, 60, 999_999_999⟩, by decide⟩
  amount := "-1"
  denom := ""
  kind := .burn

theorem late_movement_is_read_back : ∃ lines,
    Store.list [earlyMovement.row earlyMovement.time, lateMovement.row earlyMovement.time] none none
      0 (-1) = .ok lines ∧
    ∃ line ∈ lines, line.movement = lateMovement ∧
      (Entry.ofListed line).height = 9223372036854775807 ∧
      Time.relaxed? (Entry.ofListed line).time.shown = some lateMovement.time := by
  have built : BuiltUp [earlyMovement.row earlyMovement.time] :=
    BuiltUp.empty.insert (show earlyMovement.Fits from ⟨by decide, by decide⟩) rfl
  obtain ⟨after, inserted, succeeds, exact⟩ :=
    @movements_are_read_back _ lateMovement earlyMovement.time built ⟨by decide, by decide⟩
      (by decide)
  obtain ⟨_, rfl⟩ := Store.addMovement_some_iff.mp inserted
  obtain ⟨lines, listed, shows⟩ := succeeds none none 0 (-1)
  obtain ⟨before, line, behind, rfl, same, _⟩ := exact none none lines rfl listed
  have shown := (shows line (by simp)).1
  rw [same] at shown
  have height : ((Entry.ofListed line).height : Int) = 9223372036854775807 := shown.height
  exact ⟨_, listed, line, by simp, same, by omega, shown.text⟩

end Api

end Settlement
