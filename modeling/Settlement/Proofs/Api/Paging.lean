import Mathlib.Logic.Relation
import Settlement.Api.Router
import Settlement.Proofs.Store.Effects
import Settlement.Proofs.Store.Listing

/-!
Reading the ledger page after page while blocks are recorded. Blocks of greater heights come
after everything that is listed, so the pages that have been read are always the beginning of
the listing as it now is.
-/

namespace Settlement

def Store.reply? (store : Store) : (request : Request) → Option request.Reply
  | .storage statement => some (statement.run store).1
  | _ => none

namespace Api

open Store (MovementRow Listed Kept Above window)

def listed (query : Query) (store : Store) : Except Store.Fault (List Listed) :=
  Store.list store.movements query.first query.last query.page.offset query.page.limit

theorem run_listMovements (query : Query) (store : Store) :
    (listMovements query).run store.reply? = some ((listed query store).map listJson) := by
  change (do
      let reply ← some (listed query store)
      _) = _
  cases listed query store <;> rfl

theorem Page.clamped_again (offset limit : Int) :
    clamped (some (max 0 offset)) (some (max 1 (min 1000 limit))) =
      clamped (some offset) (some limit) := by
  simp only [clamped, maxLimit, Option.getD_some, Page.mk.injEq]
  omega

/-- A client that reads one page after the other, and the tables meanwhile. -/
structure Walk where
  store : Store
  pages : List (List Listed)

namespace Walk

variable (first last : Option Timestamp) (size : Nat)

def query (walk : Walk) : Query :=
  ⟨first, last, some (walk.pages.length * size : Nat), some size⟩

def IsOver (walk : Walk) : Prop := ∃ page ∈ walk.pages, page.length < size

inductive Reads : Walk → Walk → Prop where
  | page {walk : Walk} {page : List Listed} (goesOn : ¬ walk.IsOver size)
      (read : listed (walk.query first last size) walk.store = .ok page) :
      Reads walk ⟨walk.store, walk.pages ++ [page]⟩

/-- In between, blocks are recorded above all others, and other tables change. -/
inductive Step : Walk → Walk → Prop where
  | reads {before after : Walk} : Reads first last size before after → Step before after
  | record {walk : Walk} {entries : List Store.Entry} {now : Nat → Timestamp} {count : Nat}
      {after : Store} {added : List MovementRow}
      (ran : (Store.Statement.append entries now).run walk.store = (.ok (some count), after))
      (rows : after.movements = walk.store.movements ++ added)
      (above : Above walk.store.movements added) : Step walk ⟨after, walk.pages⟩
  | elsewhere {walk : Walk} {after : Store} (same : after.movements = walk.store.movements) :
      Step walk ⟨after, walk.pages⟩

/-- The pages show these rows one by one, which are the first ones of the listing. -/
structure Shows (start : List MovementRow) (walk : Walk) (shown : List MovementRow) : Prop where
  kept : Kept walk.store.movements
  begins : shown <+: window walk.store.movements first last
  lines : List.Forall₂ (fun row item => row.read = .ok item.movement) shown walk.pages.flatten
  remains : window start first last <+: window walk.store.movements first last
  full : ¬ walk.IsOver size → shown.length = walk.pages.length * size
  finished : walk.IsOver size → window start first last <+: shown

variable {first last : Option Timestamp} {size : Nat} {start shown : List MovementRow}
  {walk next : Walk}

theorem Shows.bounded (shows : Shows first last size start walk shown)
    (goesOn : ¬ walk.IsOver size) : walk.pages.length * size ≤
      walk.store.movements.countP (MovementRow.inWindow first last) := by
  rw [← shows.full goesOn, List.countP_eq_length_filter]
  exact Nat.le_trans shows.begins.length_le (Nat.le_of_eq (List.mergeSort_perm _ _).length_eq)

theorem store_of_reads
    (reaches : Relation.ReflTransGen (Reads first last size) walk next) :
    next.store = walk.store := by
  induction reaches with
  | refl => rfl
  | tail _ reads ih =>
      cases reads
      exact ih

theorem reaches_of_reads
    (reaches : Relation.ReflTransGen (Reads first last size) walk next) :
    Relation.ReflTransGen (Step first last size) walk next := by
  induction reaches with
  | refl => exact .refl
  | tail _ reads ih => exact ih.tail (.reads reads)

section Page

variable (least : 1 ≤ size) (most : size ≤ 1000)

include least most

theorem listed_query (kept : Kept walk.store.movements) :
    ∃ page, listed (walk.query first last size) walk.store = .ok page ∧
      List.Forall₂ (Store.Listed.IsOf walk.store.movements)
        (((window walk.store.movements first last).drop (walk.pages.length * size)).take size)
        page := by
  have offset : (walk.query first last size).page.offset = (walk.pages.length * size : Nat) := by
    simp only [query, Query.page, Page.clamped, Option.getD_some]
    omega
  have limit : (walk.query first last size).page.limit = size := by
    simp only [query, Query.page, Page.clamped, Page.maxLimit, Option.getD_some]
    omega
  obtain ⟨page, read, lines⟩ := kept.listed first last
    (walk.pages.length * size : Nat) size
  refine ⟨page, by rw [listed, offset, limit]; exact read, ?_⟩
  rw [Store.listedRows, Store.cut, if_neg (by omega), Int.toNat_natCast, Int.toNat_natCast] at lines
  exact lines

theorem Shows.reads (shows : Shows first last size start walk shown)
    (reads : Reads first last size walk next) : ∃ more, Shows first last size start next more := by
  obtain ⟨goesOn, read⟩ := reads
  rename_i page
  obtain ⟨rest, whole⟩ := shows.begins
  obtain ⟨_, same, lines⟩ := listed_query least most shows.kept
  cases read.symm.trans same
  rw [← shows.full goesOn, ← whole, List.drop_left] at lines
  have length := lines.length_eq
  have pages : (walk.pages ++ [page]).length * size = walk.pages.length * size + size := by
    rw [List.length_append, List.length_singleton, Nat.add_mul, Nat.one_mul]
  refine ⟨shown ++ rest.take size, shows.kept, ?_, ?_, shows.remains, ?_, ?_⟩
  · rw [← whole]
    exact (List.prefix_append_right_inj shown).mpr (List.take_prefix size rest)
  · rw [List.flatten_append, List.flatten_singleton]
    exact List.rel_append shows.lines (lines.imp fun _ _ line => line.1)
  · -- If another page may follow, then this one is full as well.
    intro further
    have enough : ¬ page.length < size := fun short =>
      further ⟨page, List.mem_append_right _ (List.mem_singleton_self page), short⟩
    rw [pages, List.length_append, shows.full goesOn, length]
    rw [List.length_take] at length
    omega
  · -- If none may follow, then this one is short, and nothing is left of the window behind it.
    rintro ⟨last, member, short⟩
    have ended : page.length < size := by
      rcases List.mem_append.mp member with there | there
      · exact absurd ⟨last, there, short⟩ goesOn
      · rwa [← List.mem_singleton.mp there]
    have all : rest.take size = rest := by
      rw [List.length_take] at length
      exact List.take_of_length_le (by omega)
    rw [all, whole]
    exact shows.remains

/-- What a step does to the pages and the tables keeps the pages a beginning of the listing. -/
theorem Shows.step (shows : Shows first last size start walk shown)
    (step : Step first last size walk next) : ∃ more, Shows first last size start next more := by
  cases step with
  | reads page => exact shows.reads least most page
  | @record _ _ _ after added ran rows above =>
      have kept : Kept after.movements := by
        simp only [Store.Statement.run] at ran
        split at ran <;> cases ran
        rename_i appended
        exact shows.kept.append appended
      have grown : window after.movements first last =
          window walk.store.movements first last ++ window added first last := by
        rw [rows] at kept ⊢
        exact kept.window_append above
      have longer : window walk.store.movements first last <+:
          window after.movements first last := ⟨_, grown.symm⟩
      exact ⟨shown, kept, shows.begins.trans longer, shows.lines, shows.remains.trans longer,
        shows.full, shows.finished⟩
  | elsewhere same =>
      refine ⟨shown, ?_, ?_, shows.lines, ?_, shows.full, shows.finished⟩
      · rw [same]
        exact shows.kept
      · rw [same]
        exact shows.begins
      · rw [same]
        exact shows.remains

theorem shows_of_reaches {store : Store} (kept : Kept store.movements)
    (reaches : Relation.ReflTransGen (Step first last size) ⟨store, []⟩ walk) :
    ∃ shown, Shows first last size store.movements walk shown := by
  induction reaches with
  | refl =>
      refine ⟨[], kept, List.nil_prefix, .nil, List.prefix_refl _, ?_, ?_⟩
      · intro _
        simp
      · rintro ⟨page, member, _⟩
        cases member
  | tail _ step ih =>
      obtain ⟨shown, shows⟩ := ih
      exact shows.step least most step

theorem ends {store : Store} (kept : Kept store.movements) :
    ∃ walk, Relation.ReflTransGen (Reads first last size) ⟨store, []⟩ walk ∧
      walk.IsOver size := by
  -- That many full pages would show more rows than there are.
  have goesOn : ∀ count, ∃ walk, Relation.ReflTransGen (Reads first last size) ⟨store, []⟩ walk ∧
      (walk.IsOver size ∨ walk.pages.length = count) := by
    intro count
    induction count with
    | zero => exact ⟨_, .refl, .inr rfl⟩
    | succ count ih =>
        obtain ⟨walk, reaches, ended⟩ := ih
        by_cases finished : walk.IsOver size
        · exact ⟨walk, reaches, .inl finished⟩
        · obtain ⟨shown, shows⟩ :=
            shows_of_reaches least most kept (reaches_of_reads reaches)
          obtain ⟨page, read, _⟩ := listed_query least most shows.kept
          refine ⟨_, reaches.tail (.page finished read), .inr ?_⟩
          rw [List.length_append, List.length_singleton, ended.resolve_left finished]
  obtain ⟨walk, reaches, ended⟩ := goesOn (store.movements.length + 1)
  by_cases finished : walk.IsOver size
  · exact ⟨walk, reaches, finished⟩
  · obtain ⟨shown, shows⟩ := shows_of_reaches least most kept (reaches_of_reads reaches)
    have few := shows.bounded finished
    rw [ended.resolve_left finished, store_of_reads reaches] at few
    have rows : store.movements.countP (MovementRow.inWindow first last) ≤ store.movements.length :=
      List.countP_le_length
    have bound := Nat.le_trans few rows
    have many := Nat.le_mul_of_pos_right (store.movements.length + 1) least
    omega

end Page

/-- Whatever is recorded above the ledger between the pages, every next page can be read, the
pages show rows of the window in strict order of height and key, and the last page completes
what was in the window when the walk began. Limits and offsets beyond the range count as its
ends. -/
theorem walk_misses_and_repeats_nothing {store : Store} (kept : Kept store.movements)
    (least : 1 ≤ size) (most : size ≤ 1000)
    (reaches : Relation.ReflTransGen (Step first last size) ⟨store, []⟩ walk) :
    (∃ page, listed (walk.query first last size) walk.store = .ok page ∧
      (listMovements (walk.query first last size)).run walk.store.reply? =
        some (.ok (listJson page))) ∧
    (∃ shown : List MovementRow,
      List.Forall₂ (fun row item => row.read = .ok item.movement) shown walk.pages.flatten ∧
      shown.Pairwise MovementRow.Precedes ∧
      (∀ row ∈ shown, row ∈ walk.store.movements ∧ row.inWindow first last = true) ∧
      (walk.IsOver size → ∀ row ∈ store.movements, row.inWindow first last = true →
        row ∈ shown)) ∧
    (¬ walk.IsOver size → walk.pages.length * size ≤
      walk.store.movements.countP (MovementRow.inWindow first last)) ∧
    ∀ (store : Store) (offset limit : Int),
      (listMovements ⟨first, last, some offset, some limit⟩).run store.reply? =
        (listMovements ⟨first, last, some (max 0 offset), some (max 1 (min 1000 limit))⟩).run
          store.reply? := by
  obtain ⟨shown, shows⟩ := shows_of_reaches least most kept reaches
  refine ⟨?_, ⟨shown, shows.lines, ?_, ?_, ?_⟩, ?_, ?_⟩
  · obtain ⟨page, read, _⟩ := listed_query least most shows.kept
    exact ⟨page, read, by rw [run_listMovements, read]; rfl⟩
  · exact shows.kept.window_pairwise.sublist shows.begins.sublist
  · exact fun row member => Store.mem_window.mp (shows.begins.subset member)
  · intro finished row member within
    exact (shows.finished finished).subset (Store.mem_window.mpr ⟨member, within⟩)
  · exact shows.bounded
  · intro store offset limit
    simp only [run_listMovements, listed, Query.page, Page.clamped_again]

/-! A walk during which a block is recorded. -/

def movementOf (hash : String) (height : Nat) : Store.Movement :=
  ⟨hash ++ "-0", some hash, "x", none, "y", none, height, zeroStamp.time, "1", "d", .transfer⟩

def rowOf (hash : String) (height : Nat) : MovementRow :=
  (movementOf hash height).row zeroStamp.time

def ledgerOf (rows : List MovementRow) : Store := { Store.empty with movements := rows }

theorem read_rowOf (hash : String) (height : Nat) :
    (rowOf hash height).read = .ok (movementOf hash height) :=
  Store.Movement.read_row _ _

theorem listed_singly {store : Store} {offset : Nat} {rows : List MovementRow}
    {lines : List Listed} (sorted : store.movements.Pairwise fun a b => a.before b = true)
    (found : (store.movements.drop offset).take 1 = rows)
    (reads : (rows.mapM fun row => do
      return (⟨← row.read, Store.siblings store.movements row⟩ : Listed)) = .ok lines) :
    listed ⟨none, none, some offset, some 1⟩ store = .ok lines := by
  have clamped : Page.clamped (some (offset : Int)) (some 1) = ⟨offset, 1⟩ := by
    simp only [Page.clamped, Page.maxLimit, Option.getD_some, Page.mk.injEq]
    omega
  have all : store.movements.filter (MovementRow.inWindow none none) = store.movements :=
    List.filter_eq_self.mpr fun _ _ => rfl
  have page : Store.listedRows store.movements none none offset 1 = rows := by
    rw [Store.listedRows, all, List.mergeSort_of_pairwise sorted, ← found]
    rfl
  rw [listed, Query.page, clamped, Store.list, page]
  exact reads

/-- The second page shows what was recorded after the first. -/
theorem walk_meets_a_new_block : ∃ walk,
    Relation.ReflTransGen (Step none none 1) ⟨ledgerOf [rowOf "A" 1], []⟩ walk ∧
    walk.IsOver 1 ∧
    walk.pages = [[⟨movementOf "A" 1, 1⟩], [⟨movementOf "B" 2, 1⟩], []] ∧
    ∃ shown : List MovementRow, shown.Pairwise MovementRow.Precedes ∧ rowOf "A" 1 ∈ shown := by
  let one := ledgerOf [rowOf "A" 1]
  let two := ledgerOf [rowOf "A" 1, rowOf "B" 2]
  let entry : Store.Entry :=
    ⟨"B-0", "B", "x", none, "y", none, 2, zeroStamp.time, "1", "d", .transfer⟩
  have kept : Kept one.movements := by
    refine ⟨fun row member => ?_, List.nodup_singleton _⟩
    obtain rfl := List.mem_singleton.mp member
    exact ⟨_, read_rowOf _ _⟩
  have reads : ∀ {rows : List MovementRow} {hash : String} {height : Nat},
      Store.siblings rows (rowOf hash height) = 1 →
      ([rowOf hash height].mapM fun row => do
        return (⟨← row.read, Store.siblings rows row⟩ : Listed)) =
          Except.ok [⟨movementOf hash height, 1⟩] := by
    intro rows hash height single
    simp only [List.mapM_cons, List.mapM_nil, read_rowOf, single]
    rfl
  have first : Step none none 1 ⟨one, []⟩ ⟨one, [[⟨movementOf "A" 1, 1⟩]]⟩ :=
    .reads (.page (by simp [IsOver]) (listed_singly (by decide) rfl (reads (by decide))))
  have recorded : Step none none 1 ⟨one, [[⟨movementOf "A" 1, 1⟩]]⟩
      ⟨two, [[⟨movementOf "A" 1, 1⟩]]⟩ := by
    have ran : (Store.Statement.append [entry] zeroTimes).run one = (.ok (some 1), two) := rfl
    refine .record ran (show two.movements = one.movements ++ [rowOf "B" 2] from rfl) ?_
    intro old here new there
    obtain rfl := List.mem_singleton.mp here
    obtain rfl := List.mem_singleton.mp there
    exact ⟨1, 2, rfl, rfl, by decide⟩
  have second : Step none none 1 ⟨two, [[⟨movementOf "A" 1, 1⟩]]⟩
      ⟨two, [[⟨movementOf "A" 1, 1⟩], [⟨movementOf "B" 2, 1⟩]]⟩ :=
    .reads (.page (by simp [IsOver]) (listed_singly (by decide) rfl (reads (by decide))))
  have third : Step none none 1 ⟨two, [[⟨movementOf "A" 1, 1⟩], [⟨movementOf "B" 2, 1⟩]]⟩
      ⟨two, [[⟨movementOf "A" 1, 1⟩], [⟨movementOf "B" 2, 1⟩], []]⟩ :=
    .reads (.page (by simp [IsOver]) (listed_singly (by decide) rfl rfl))
  have reaches := (((Relation.ReflTransGen.single first).tail recorded).tail second).tail third
  have finished : IsOver 1 ⟨two, [[⟨movementOf "A" 1, 1⟩], [⟨movementOf "B" 2, 1⟩], []]⟩ :=
    ⟨[], by simp, by decide⟩
  obtain ⟨_, ⟨shown, _, sorted, _, complete⟩, _⟩ :=
    walk_misses_and_repeats_nothing kept (by decide) (by decide) reaches
  exact ⟨_, reaches, finished, rfl, shown, sorted,
    complete finished _ (List.mem_singleton_self _) rfl⟩

end Walk

end Api

end Settlement
