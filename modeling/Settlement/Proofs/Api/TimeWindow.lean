import Settlement.Proofs.Api.Paging
import Settlement.Proofs.Time.Instant

/-!
The window of a query. It compares texts, and as long as all years have four digits the texts
compare as the instants, so the listing shows what lies between the two times and nothing else.
-/

namespace Settlement

namespace Store

/-- Every block time is in the stored form, and its year has four digits. -/
def Dated (rows : List MovementRow) : Prop :=
  ∀ row ∈ rows, ∃ time : Timestamp, row.time = time.stored ∧ time.IsPlain

theorem Dated.append {now : Nat → Timestamp} {entries : List Entry} {rows after : List MovementRow}
    {count : Nat} (dated : Dated rows) (plain : ∀ entry ∈ entries, entry.time.IsPlain)
    (appended : appendEntries now entries rows = some (count, after)) : Dated after := by
  obtain ⟨added, rfl, _, _, source, _⟩ := appendEntries_added appended
  intro row member
  rcases List.mem_append.mp member with old | new
  · exact dated row old
  · obtain ⟨entry, there, made⟩ := source row new
    obtain ⟨movement, fits, same⟩ := Option.map_eq_some_iff.mp made
    obtain ⟨height, _, stored⟩ := Option.bind_eq_some_iff.mp fits
    cases stored
    exact ⟨entry.time, (congrArg MovementRow.time same).symm, plain entry there⟩

def Movement.Within (first last : Option Timestamp) (movement : Movement) : Prop :=
  (∀ time ∈ first, ¬ movement.time.instant < time.instant) ∧
    ∀ time ∈ last, movement.time.instant < time.instant

variable {first last : Option Timestamp} {rows : List MovementRow} {row : MovementRow}
  {movement : Movement}

/-- What a row's text says of the window, its instant says as well. -/
theorem inWindow_iff (dated : Dated rows) (begins : ∀ time ∈ first, time.IsPlain)
    (ends : ∀ time ∈ last, time.IsPlain) (member : row ∈ rows)
    (reads : row.read = .ok movement) :
    row.inWindow first last = true ↔ movement.Within first last := by
  obtain ⟨time, text, plain⟩ := dated row member
  have same : time = movement.time := by
    have readTime := (row.read_ok reads).2.2.2
    rw [text, readTime_stored] at readTime
    exact Except.ok.inj readTime
  subst same
  unfold MovementRow.inWindow Movement.Within
  rw [Bool.and_eq_true, text]
  apply and_congr
  · cases first with
    | none => simp only [Option.all_none, Option.mem_def, reduceCtorEq, false_implies,
        implies_true]
    | some start =>
        have order := Timestamp.lt_stored_iff plain (begins start rfl)
        simp only [Option.all_some, ← decide_not, decide_eq_true_eq, order, Option.mem_def,
          Option.some.injEq, forall_eq']
  · cases last with
    | none => simp only [Option.all_none, Option.mem_def, reduceCtorEq, false_implies,
        implies_true]
    | some stop =>
        have order := Timestamp.lt_stored_iff plain (ends stop rfl)
        simp only [Option.all_some, decide_eq_true_eq, order, Option.mem_def, Option.some.injEq,
          forall_eq']

end Store

namespace Api

open Store (MovementRow Kept Dated)

variable {first last : Option Timestamp} {size : Nat} {store : Store}

/-- Page by page the listing comes to an end, and then it has shown exactly the rows between the
two instants, each of them once. Stored times are ordered as the instants they denote. -/
theorem pages_show_the_instants_between (kept : Kept store.movements)
    (dated : Dated store.movements) (begins : ∀ time ∈ first, time.IsPlain)
    (ends : ∀ time ∈ last, time.IsPlain) (least : 1 ≤ size) (most : size ≤ 1000) :
    (∃ walk, Relation.ReflTransGen (Walk.Reads first last size) ⟨store, []⟩ walk ∧
      walk.IsOver size) ∧
    (∀ walk, Relation.ReflTransGen (Walk.Reads first last size) ⟨store, []⟩ walk →
      walk.IsOver size → ∃ shown : List MovementRow,
        List.Forall₂ (fun row item => row.read = .ok item.movement) shown walk.pages.flatten ∧
        shown.Nodup ∧
        ∀ row, row ∈ shown ↔ row ∈ store.movements ∧
          ∃ movement, row.read = .ok movement ∧ movement.Within first last) ∧
    ∀ a b : Timestamp, a.IsPlain → b.IsPlain → (a.stored < b.stored ↔ a.instant < b.instant) := by
  refine ⟨Walk.ends least most kept, ?_, fun a b => Timestamp.lt_stored_iff⟩
  intro walk reaches finished
  obtain ⟨shown, shows⟩ :=
    Walk.shows_of_reaches least most kept (Walk.reaches_of_reads reaches)
  have begun := shows.begins
  rw [Walk.store_of_reads reaches] at begun
  have whole := begun.eq_of_length_le (shows.finished finished).length_le
  refine ⟨shown, shows.lines, ?_, ?_⟩
  · rw [whole]
    exact kept.window_nodup
  · intro row
    rw [whole, Store.mem_window]
    constructor
    · rintro ⟨member, within⟩
      obtain ⟨movement, reads⟩ := kept.readable row member
      exact ⟨member, movement, reads,
        (Store.inWindow_iff dated begins ends member reads).mp within⟩
    · rintro ⟨member, movement, reads, within⟩
      exact ⟨member, (Store.inWindow_iff dated begins ends member reads).mpr within⟩

def midnight : Timestamp := ⟨⟨2017, 1, 1, 0, 0, 0, 0⟩, by decide⟩

def leapSecond : Timestamp := ⟨⟨2016, 12, 31, 23, 59, 60, 500_000_000⟩, by decide⟩

def lastNanosecond : Timestamp := ⟨⟨2016, 12, 31, 23, 59, 59, 999_999_999⟩, by decide⟩

def rowAt (key : String) (time : Timestamp) : MovementRow :=
  Store.Movement.row ⟨key, none, "x", none, "y", none, 1, time, "1", "d", .transfer⟩ time

/-- The leap second lies before midnight and after the second that it prolongs. -/
theorem window_holds_the_leap_second : ∃ walk,
    Relation.ReflTransGen (Walk.Reads (some lastNanosecond) (some midnight) 1)
      ⟨Walk.ledgerOf [rowAt "A-0" leapSecond, rowAt "B-0" midnight], []⟩ walk ∧
    walk.IsOver 1 ∧ ∃ shown : List MovementRow,
      List.Forall₂ (fun row item => row.read = .ok item.movement) shown walk.pages.flatten ∧
      rowAt "A-0" leapSecond ∈ shown ∧ rowAt "B-0" midnight ∉ shown := by
  let store := Walk.ledgerOf [rowAt "A-0" leapSecond, rowAt "B-0" midnight]
  have kept : Kept store.movements := by
    refine ⟨fun row member => ?_, by decide⟩
    simp only [store, Walk.ledgerOf, List.mem_cons, List.not_mem_nil, or_false] at member
    rcases member with rfl | rfl
    · exact ⟨_, Store.Movement.read_row _ _⟩
    · exact ⟨_, Store.Movement.read_row _ _⟩
  have dated : Dated store.movements := by
    intro row member
    simp only [store, Walk.ledgerOf, List.mem_cons, List.not_mem_nil, or_false] at member
    rcases member with rfl | rfl
    · exact ⟨leapSecond, rfl, by decide⟩
    · exact ⟨midnight, rfl, by decide⟩
  have begins : ∀ time ∈ some lastNanosecond, time.IsPlain := by
    rintro _ ⟨⟩
    decide
  have ends : ∀ time ∈ some midnight, time.IsPlain := by
    rintro _ ⟨⟩
    decide
  obtain ⟨⟨walk, reaches, finished⟩, exact, _⟩ :=
    pages_show_the_instants_between kept dated begins ends (show 1 ≤ 1 by decide) (by decide)
  obtain ⟨shown, lines, _, member⟩ := exact walk reaches finished
  refine ⟨walk, reaches, finished, shown, lines, ?_, ?_⟩
  · refine (member _).mpr ⟨List.mem_cons_self, _, Store.Movement.read_row _ _, ?_, ?_⟩
    · rintro _ ⟨⟩
      decide
    · rintro _ ⟨⟩
      decide
  · intro there
    obtain ⟨_, _, reads, _, before⟩ := (member _).mp there
    cases (Store.Movement.read_row _ _).symm.trans reads
    exact absurd (before midnight rfl) (by decide)

end Api

end Settlement
