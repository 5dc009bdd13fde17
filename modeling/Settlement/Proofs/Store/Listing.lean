import Mathlib.Data.List.Forall2
import Settlement.Proofs.Ledger.Keys
import Settlement.Proofs.Store.Readable

/-!
The order of what is loaded and listed. Rows are sorted by a number column and then by a text
column. Keys are unique, so the movements of a window have one order, and movements above all
others come after them.
-/

namespace Settlement.Store

section Stability

variable {α : Type} {le : α → α → Bool}
  (trans : ∀ a b c, le a b = true → le b c = true → le a c = true)
  (total : ∀ a b, (le a b || le b a) = true)

include trans total

theorem mergeSort_cons_filter (first : α) (rest : List α) :
    (first :: rest).mergeSort le =
      (rest.mergeSort le).filter (fun b => !le first b) ++
        first :: (rest.mergeSort le).filter (le first) := by
  obtain ⟨before, after, sorted, others, less⟩ := List.mergeSort_cons trans total first rest
  have ranked := List.pairwise_mergeSort trans total (first :: rest)
  rw [sorted] at ranked
  have greater := (List.pairwise_cons.mp (List.pairwise_append.mp ranked).2.1).1
  rw [sorted, others, List.filter_append, List.filter_append, List.filter_eq_self.mpr less,
    List.filter_eq_self.mpr greater, List.filter_eq_nil_iff.mpr (by simpa using greater),
    List.filter_eq_nil_iff.mpr (by simpa using less), List.append_nil, List.nil_append]

/-- Sorting is stable, so it makes no difference whether elements are left out before or after. -/
theorem filter_mergeSort (keep : α → Bool) (list : List α) :
    (list.mergeSort le).filter keep = (list.filter keep).mergeSort le := by
  induction list with
  | nil => simp
  | cons first rest ih =>
      by_cases kept : keep first = true
      · rw [mergeSort_cons_filter trans total, List.filter_append, List.filter_cons_of_pos kept,
          List.filter_cons_of_pos kept, mergeSort_cons_filter trans total, ← ih,
          List.filter_comm keep, List.filter_comm keep]
      · obtain ⟨before, after, sorted, others, _⟩ := List.mergeSort_cons trans total first rest
        rw [sorted, List.filter_append, List.filter_cons_of_neg kept, ← List.filter_append,
          ← others, ih, List.filter_cons_of_neg kept]

end Stability

section Sorting

variable {row : Type} (height : row → Cell) (mark : row → String)

def stands (a b : row) : Bool :=
  if height a = height b then !(mark b < mark a) else (height a).atMost (height b)

def Ordered (a b : row) : Prop :=
  ∃ m n, height a = .number m ∧ height b = .number n ∧ (m < n ∨ m = n ∧ ¬ mark b < mark a)

variable {height mark}

theorem stands_numbers {a b : row} {m n : Int} (first : height a = .number m)
    (second : height b = .number n) :
    stands height mark a b = decide (m < n ∨ m = n ∧ ¬ mark b < mark a) := by
  unfold stands
  rw [first, second]
  by_cases same : m = n
  · rw [if_pos (congrArg Cell.number same), same, ← decide_not]
    exact decide_eq_decide.mpr (by simp only [Int.lt_irrefl, true_and, false_or])
  · have apart : Cell.number m ≠ Cell.number n := fun equal => same (Cell.number.inj equal)
    rw [if_neg apart, Cell.atMost]
    refine decide_eq_decide.mpr ?_
    rw [Int.le_iff_lt_or_eq]
    simp only [same, false_and, or_false]

variable (height mark)

def Cell.index : Cell → Int
  | .number n => n
  | _ => 0

/-- Compares as `stands` does where there are numbers, and is an order everywhere. -/
def rank (a b : row) : Bool :=
  (height a).index < (height b).index ∨ (height a).index = (height b).index ∧ ¬ mark b < mark a

theorem rank_trans (a b c : row) (first : rank height mark a b = true)
    (second : rank height mark b c = true) : rank height mark a c = true := by
  simp only [rank, decide_eq_true_eq] at first second ⊢
  rcases first with less | ⟨left, upper⟩ <;> rcases second with more | ⟨right, lower⟩
  · exact .inl (by omega)
  · exact .inl (by omega)
  · exact .inl (by omega)
  · rw [String.not_lt] at upper lower
    exact .inr ⟨by omega, String.not_lt.mpr (String.le_trans upper lower)⟩

theorem rank_total (a b : row) : (rank height mark a b || rank height mark b a) = true := by
  simp only [rank, Bool.or_eq_true, decide_eq_true_eq]
  rcases Int.lt_trichotomy (height a).index (height b).index with less | same | greater
  · exact .inl (.inl less)
  · by_cases marks : mark b < mark a
    · exact .inr (.inr ⟨same.symm, String.lt_asymm marks⟩)
    · exact .inl (.inr ⟨same, marks⟩)
  · exact .inr (.inl greater)

variable {height mark} {rows : List row}

theorem sorted_rank (numbers : ∀ row ∈ rows, ∃ n, height row = .number n) :
    rows.mergeSort (stands height mark) = rows.mergeSort (rank height mark) := by
  have mapped := List.map_mergeSort (f := id) (l := rows) (r := stands height mark)
    (s := rank height mark) fun a here b there => by
      obtain ⟨m, first⟩ := numbers a here
      obtain ⟨n, second⟩ := numbers b there
      simp only [rank, id_eq, stands_numbers first second, first, second, Cell.index]
  simpa using mapped

theorem pairwise_sorted (numbers : ∀ row ∈ rows, ∃ n, height row = .number n) :
    (rows.mergeSort (stands height mark)).Pairwise (Ordered height mark) := by
  rw [sorted_rank numbers]
  have ranked := List.pairwise_mergeSort (rank_trans height mark) (rank_total height mark) rows
  refine ranked.imp_of_mem ?_
  intro a b here there ranked
  obtain ⟨m, first⟩ := numbers a (List.mem_mergeSort.mp here)
  obtain ⟨n, second⟩ := numbers b (List.mem_mergeSort.mp there)
  simp only [rank, decide_eq_true_eq, first, second, Cell.index] at ranked
  exact ⟨m, n, first, second, ranked⟩

theorem filter_sorted (numbers : ∀ row ∈ rows, ∃ n, height row = .number n)
    (keep : row → Bool) : (rows.mergeSort (stands height mark)).filter keep =
      (rows.filter keep).mergeSort (stands height mark) := by
  rw [sorted_rank numbers, sorted_rank fun row member => numbers row (List.mem_filter.mp member).1]
  exact filter_mergeSort (rank_trans height mark) (rank_total height mark) keep rows

end Sorting

theorem mapM_forall₂ {α β : Type} {read : α → Except Fault β} {holds : α → β → Prop}
    {rows : List α} (each : ∀ row ∈ rows, ∃ value, read row = .ok value ∧ holds row value) :
    ∃ values, rows.mapM read = .ok values ∧ List.Forall₂ holds rows values := by
  induction rows with
  | nil => exact ⟨[], rfl, .nil⟩
  | cons row rest ih =>
      obtain ⟨value, first, met⟩ := each row List.mem_cons_self
      obtain ⟨values, others, all⟩ := ih fun other member =>
        each other (List.mem_cons_of_mem _ member)
      exact ⟨value :: values, by simp only [List.mapM_cons, first, others]; rfl, .cons met all⟩

/-- A ledger whose rows can be read and have keys of their own. -/
structure Kept (rows : List MovementRow) : Prop where
  readable : ∀ row ∈ rows, Succeeds row.read
  distinct : (rows.map (·.key)).Nodup

/-- By height, then by key. -/
def MovementRow.Precedes (a b : MovementRow) : Prop :=
  ∃ m n, a.height = .number m ∧ b.height = .number n ∧ (m < n ∨ m = n ∧ a.key < b.key)

theorem MovementRow.Precedes.asymm {a b : MovementRow} (first : a.Precedes b) :
    ¬ b.Precedes a := by
  rintro ⟨n, m, left, right, second⟩
  obtain ⟨_, _, low, high, order⟩ := first
  cases Cell.number.inj (low.symm.trans right)
  cases Cell.number.inj (high.symm.trans left)
  rcases order with less | ⟨rfl, less⟩
  · omega
  · rcases second with more | ⟨_, more⟩
    · omega
    · exact String.lt_asymm less more

theorem MovementRow.read_ok (row : MovementRow) {movement : Movement}
    (reads : row.read = .ok movement) :
    row.key = movement.key ∧ row.legacyHash = movement.legacyHash ∧
      row.height = .number movement.height ∧
      readTime "block_time" row.time = .ok movement.time := by
  simp only [MovementRow.read, bind_ok] at reads
  obtain ⟨_, _, _, _, height, readsHeight, time, readsTime, _, _, made⟩ := reads
  cases made
  refine ⟨rfl, rfl, ?_, readsTime⟩
  cases cell : row.height <;> rw [cell] at readsHeight <;> cases readsHeight
  rfl

/-- A line of the listing tells a row of the ledger and how many share its bare hash. -/
def Listed.IsOf (rows : List MovementRow) (row : MovementRow) (item : Listed) : Prop :=
  row.read = .ok item.movement ∧ item.movementsInTx = siblings rows row

def window (rows : List MovementRow) (first last : Option Timestamp) : List MovementRow :=
  (rows.filter (MovementRow.inWindow first last)).mergeSort MovementRow.before

section Window

variable {rows added : List MovementRow} {first last : Option Timestamp} {row : MovementRow}

theorem mem_window : row ∈ window rows first last ↔
    row ∈ rows ∧ row.inWindow first last = true :=
  (List.mergeSort_perm _ _).mem_iff.trans List.mem_filter

theorem listedRows_sublist (offset limit : Int) :
    (listedRows rows first last offset limit).Sublist (window rows first last) := by
  unfold listedRows cut
  split
  · exact List.drop_sublist _ _
  · exact (List.take_sublist _ _).trans (List.drop_sublist _ _)

variable (kept : Kept rows)

include kept

theorem Kept.number (member : row ∈ rows) : ∃ n, row.height = .number n := by
  obtain ⟨movement, reads⟩ := kept.readable row member
  exact ⟨movement.height, (row.read_ok reads).2.2.1⟩

theorem Kept.key_inj {other : MovementRow} (here : row ∈ rows) (there : other ∈ rows)
    (same : row.key = other.key) : row = other :=
  List.inj_on_of_nodup_map kept.distinct here there same

theorem Kept.window_pairwise : (window rows first last).Pairwise MovementRow.Precedes := by
  have ordered : (window rows first last).Pairwise (Ordered MovementRow.height (·.key)) :=
    pairwise_sorted fun row member => kept.number (List.mem_filter.mp member).1
  have apart : (window rows first last).Pairwise fun a b => a.key ≠ b.key := by
    have filtered : ((rows.filter (MovementRow.inWindow first last)).map (·.key)).Nodup :=
      (List.filter_sublist.map _).nodup kept.distinct
    exact List.pairwise_map.mp (((List.mergeSort_perm _ _).map _).nodup_iff.mpr filtered)
  refine (ordered.and apart).imp ?_
  rintro a b ⟨⟨m, n, low, high, less | ⟨same, least⟩⟩, differ⟩
  · exact ⟨m, n, low, high, .inl less⟩
  · refine ⟨m, n, low, high, .inr ⟨same, ?_⟩⟩
    by_cases less : a.key < b.key
    · exact less
    · exact absurd (String.le_antisymm (String.not_lt.mp least) (String.not_lt.mp less)) differ

theorem Kept.window_nodup : (window rows first last).Nodup := by
  refine kept.window_pairwise.imp ?_
  rintro row _ order rfl
  exact order.asymm order

theorem Kept.listed (first last : Option Timestamp) (offset limit : Int) :
    ∃ page, list rows first last offset limit = .ok page ∧
      List.Forall₂ (Listed.IsOf rows) (listedRows rows first last offset limit) page := by
  apply mapM_forall₂
  intro row member
  have inWindow := (listedRows_sublist offset limit).subset member
  obtain ⟨movement, reads⟩ := kept.readable row (mem_window.mp inWindow).1
  exact ⟨⟨movement, siblings rows row⟩, by rw [reads]; rfl, reads, rfl⟩

variable {offset limit : Int} {lines : List Listed}
  (listed : list rows first last offset limit = .ok lines)

include listed

theorem Kept.listed_lines :
    List.Forall₂ (Listed.IsOf rows) (listedRows rows first last offset limit) lines := by
  obtain ⟨page, same, shows⟩ := kept.listed first last offset limit
  rwa [Except.ok.inj (listed.symm.trans same)]

theorem Kept.listed_keys : lines.map (·.movement.key) =
    (listedRows rows first last offset limit).map (·.key) := by
  have shows := kept.listed_lines listed
  clear listed
  generalize listedRows rows first last offset limit = shown at shows
  induction shows with
  | nil => rfl
  | cons line _ ih => rw [List.map_cons, List.map_cons, ih, (MovementRow.read_ok _ line.1).1]

theorem Kept.listed_source {line : Listed} (member : line ∈ lines) :
    ∃ row ∈ window rows first last, row.read = .ok line.movement := by
  have shows := kept.listed_lines listed
  obtain ⟨index, within, rfl⟩ := List.getElem_of_mem member
  have inside : index < (listedRows rows first last offset limit).length :=
    shows.length_eq ▸ within
  exact ⟨_, (listedRows_sublist offset limit).subset (List.getElem_mem inside),
    (shows.get inside within).1⟩

end Window

def Above (rows added : List MovementRow) : Prop :=
  ∀ old ∈ rows, ∀ new ∈ added, ∃ m n, old.height = .number m ∧ new.height = .number n ∧ m < n

theorem Kept.window_append {rows added : List MovementRow} {first last : Option Timestamp}
    (kept : Kept (rows ++ added)) (above : Above rows added) :
    window (rows ++ added) first last = window rows first last ++ window added first last := by
  have left : Kept rows := ⟨fun row member => kept.readable row (List.mem_append_left _ member),
    ((List.sublist_append_left rows added).map _).nodup kept.distinct⟩
  have right : Kept added := ⟨fun row member => kept.readable row (List.mem_append_right _ member),
    ((List.sublist_append_right rows added).map _).nodup kept.distinct⟩
  refine List.Perm.eq_of_pairwise (fun a b _ _ first second => absurd second first.asymm)
    kept.window_pairwise ?_ ?_
  · refine List.pairwise_append.mpr ⟨left.window_pairwise, right.window_pairwise, ?_⟩
    intro old here new there
    obtain ⟨m, n, low, high, less⟩ := above old (mem_window.mp here).1 new (mem_window.mp there).1
    exact ⟨m, n, low, high, .inl less⟩
  · have parts := (List.mergeSort_perm (rows.filter (MovementRow.inWindow first last))
      MovementRow.before).append (List.mergeSort_perm (added.filter
        (MovementRow.inWindow first last)) MovementRow.before)
    rw [← List.filter_append] at parts
    exact (List.mergeSort_perm _ _).trans parts.symm

theorem Kept.append {now : Nat → Timestamp} {entries : List Entry} {rows after : List MovementRow}
    {count : Nat} (kept : Kept rows)
    (appended : appendEntries now entries rows = some (count, after)) : Kept after := by
  obtain ⟨_, _, _, distinct, _⟩ := appendEntries_added appended
  exact ⟨appendEntries_readable kept.readable appended, distinct kept.distinct⟩

end Settlement.Store
