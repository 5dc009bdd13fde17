import Settlement.Proofs.DepositQueue.Leases
import Settlement.Proofs.DepositQueue.LoneWorker
import Settlement.Proofs.Ledger.Renumbering
import Settlement.Proofs.Store.Listing
import Settlement.Proofs.Time.Instant

/-!
One cycle of a lone worker: a load, and then one attempt at each deposit that was loaded. What
comes of a deposit does not depend on what else is in the table or on what came of the deposits
before it.
-/

namespace Settlement.DepositQueue

open Store (DepositRow RegistrationRow)

theorem run_processAll (around : Surroundings) {progress : Progress} {ttl : Span}
    {rows : List DepositRow} (steady : around.Steady ttl)
    (keyed : progress.store.Keyed) (distinct : (rows.map DepositRow.id).Nodup)
    (left : ∀ row ∈ rows, row ∈ progress.store.deposits ∧ row.Legible ∧
      row.isPending (around.clock 0) = true)
    (readable : ∀ row ∈ progress.store.registrations, Store.Succeeds row.read) :
    ∃ change asked,
      around.run (processAll ttl (rows.map DepositRow.uuid)) progress =
        (.ok (rows.map fun row => (row.uuid,
            (verdict around.bank progress.store.registrations row).map fun _ => true)),
          progress.moved change asked
            (rows.filterMap (request? progress.store.registrations))) ∧
      (∀ row ∈ rows, Ends row (change row)
        (verdict around.bank progress.store.registrations row)) ∧
      ∀ row : DepositRow, row.id ∉ rows.map DepositRow.id → change row = row := by
  -- Each deposit is as it was at the load when its turn comes, since its row is the only one that
  -- an attempt at it writes to.
  induction rows generalizing progress with
  | nil =>
      have same : progress.moved id progress.asked [] = progress := by simp [Progress.moved]
      refine ⟨id, progress.asked, ?_, by simp, by simp⟩
      rw [List.filterMap_nil, same]
      rfl
  | cons row rest ih =>
      obtain ⟨apart, others⟩ := List.nodup_cons.mp distinct
      obtain ⟨member, legible, pending⟩ := left row List.mem_cons_self
      obtain ⟨after, asked, ends, ran⟩ :=
        run_process around steady keyed member legible pending readable
      let next := progress.moved (replaced row.id after) asked
        (request? progress.store.registrations row).toList
      have rekeyed : next.store.Keyed := Progress.keyed_moved keyed (replaced_id ends.id) _ _
      have spared : ∀ other : DepositRow, other.id ≠ row.id →
          replaced row.id after other = other := fun other differ => if_neg differ
      have differ : ∀ other ∈ rest, other.id ≠ row.id := by
        intro other there same
        exact apart (List.mem_map.mpr ⟨other, there, same⟩)
      have remaining : ∀ other ∈ rest, other ∈ next.store.deposits ∧ other.Legible ∧
          other.isPending (around.clock 0) = true := by
        intro other there
        obtain ⟨stored, rest⟩ := left other (List.mem_cons_of_mem _ there)
        exact ⟨List.mem_map.mpr ⟨other, stored, spared other (differ other there)⟩, rest⟩
      obtain ⟨change, last, run, settled, kept⟩ :=
        ih rekeyed others remaining readable
      refine ⟨change ∘ replaced row.id after, last, ?_, ?_, ?_⟩
      · have requests : (row :: rest).filterMap (request? progress.store.registrations) =
            (request? progress.store.registrations row).toList ++
              rest.filterMap (request? progress.store.registrations) := by
          simp only [List.filterMap_eq_flatMap_toList, List.flatMap_cons]
        rw [List.map_cons, processAll, Surroundings.run_attempt, ran,
          Surroundings.run_bind run, requests, ← Progress.moved_moved]
        rfl
      · intro other there
        rcases List.mem_cons.mp there with rfl | later
        · rw [Function.comp_apply, replaced, if_pos rfl, kept after (ends.id ▸ apart)]
          exact ends
        · rw [Function.comp_apply, spared other (differ other later)]
          exact settled other later
      · intro other absent
        rw [List.map_cons, List.mem_cons, not_or] at absent
        rw [Function.comp_apply, spared other absent.1]
        exact kept other absent.2

/-- The lower one comes first, and of two of one height the one that was created first. -/
def Queued (a b : DepositRow) : Prop :=
  Store.Ordered DepositRow.height DepositRow.created a b ∧
    (a.height = b.height → ∀ first second : Timestamp, first.IsPlain → second.IsPlain →
      a.created = first.stored → b.created = second.stored →
      ¬ second.instant < first.instant)

theorem queued_of_ordered {a b : DepositRow}
    (ordered : Store.Ordered DepositRow.height DepositRow.created a b) : Queued a b := by
  refine ⟨ordered, fun level first second plain other left right earlier => ?_⟩
  obtain ⟨m, n, low, high, less | ⟨_, least⟩⟩ := ordered
  · have same := Store.Cell.number.inj (low.symm.trans (level.trans high))
    omega
  · rw [left, right] at least
    exact least ((Timestamp.lt_stored_iff other plain).mpr earlier)

section Loading

variable {rows : List DepositRow} {row : DepositRow} {now : Int}

theorem mem_pendingRows : row ∈ Store.pendingRows rows now ↔
    row ∈ rows ∧ row.isPending now = true :=
  List.mem_mergeSort.trans List.mem_filter

theorem pending_numbers (legible : ∀ row ∈ rows, row.Legible) :
    ∀ row ∈ rows.filter (DepositRow.isPending now), ∃ n, row.height = .number n :=
  fun row member => (legible row (List.mem_filter.mp member).1).number

theorem pendingRows_queued (legible : ∀ row ∈ rows, row.Legible) :
    (Store.pendingRows rows now).Pairwise Queued :=
  (Store.pairwise_sorted (pending_numbers legible)).imp queued_of_ordered

theorem pendingRows_filter (legible : ∀ row ∈ rows, row.Legible) (keep : DepositRow → Bool) :
    Store.pendingRows (rows.filter keep) now = (Store.pendingRows rows now).filter keep := by
  rw [Store.pendingRows, List.filter_comm]
  exact (Store.filter_sorted (pending_numbers legible) keep).symm

theorem pendingRows_ids (distinct : (rows.map DepositRow.id).Nodup) :
    ((Store.pendingRows rows now).map DepositRow.id).Nodup := by
  have sublist := (List.filter_sublist (p := DepositRow.isPending now) (l := rows)).map
    DepositRow.id
  exact ((List.mergeSort_perm _ _).map _).nodup_iff.mpr (sublist.nodup distinct)

theorem pendingRows_uuids (distinct : (rows.map DepositRow.id).Nodup)
    (written : ∀ row ∈ rows, row.id = row.uuid.text) :
    ((Store.pendingRows rows now).map DepositRow.uuid).Nodup := by
  have texts : (Store.pendingRows rows now).map DepositRow.id =
      (Store.pendingRows rows now).map (Uuid.text ∘ DepositRow.uuid) :=
    List.map_congr_left fun row member => written row (mem_pendingRows.mp member).1
  apply List.Nodup.of_map Uuid.text
  rw [List.map_map, ← texts]
  exact pendingRows_ids distinct

theorem pendingIds_ok (written : ∀ row ∈ rows, row.id = row.uuid.text) :
    Store.pendingIds rows now = .ok ((Store.pendingRows rows now).map DepositRow.uuid) := by
  have each : ∀ row ∈ Store.pendingRows rows now,
      ∃ id, Store.readId "uuid" row.id = .ok id ∧ row.uuid = id := by
    intro row member
    refine ⟨row.uuid, ?_, rfl⟩
    rw [written row (mem_pendingRows.mp member).1]
    exact Store.readId_text "uuid" row.uuid
  obtain ⟨ids, reads, same⟩ := Store.mapM_forall₂ each
  rw [Store.pendingIds, reads]
  rw [← List.forall₂_map_left_iff, List.forall₂_eq_eq_eq] at same
  rw [same]

theorem eraseDups_nodup {ids : List Uuid} (distinct : ids.Nodup) : ids.eraseDups = ids := by
  induction ids with
  | nil => rfl
  | cons id rest ih =>
      obtain ⟨apart, others⟩ := List.nodup_cons.mp distinct
      have kept : rest.filter (fun other => !other == id) = rest := by
        apply List.filter_eq_self.mpr
        intro other there
        have differ : other ≠ id := fun same => apart (same ▸ there)
        simpa using differ
      rw [List.eraseDups_cons, kept, ih others]

end Loading

/-- What a cycle does to the tables: the deposits that it handles, and what becomes of each row. -/
structure Settles (ttl : Span) (around : Surroundings) (store : Store)
    (handled : List DepositRow) (change : DepositRow → DepositRow) : Prop where
  /-- Exactly those are handled that wait at the load and are held by no worker then. -/
  waiting : ∀ row, row ∈ handled ↔ row ∈ store.deposits ∧
    row.status = Named.text DepositStatus.inserted ∧
    ∀ limit, row.claimedUntil = some limit → limit.isBelow (around.clock 0) = true
  distinct : (handled.map DepositRow.uuid).Nodup
  order : handled.Pairwise Queued
  /-- The cycle comes to its end, and the bank has had one request for each deposit whose sender
  has an account, and no other. -/
  ran : ∃ asked, around.run (cycle ttl) (.start store) =
    (.ok (.ok (handled.map DepositRow.uuid), handled.map fun row =>
        (row.uuid, (verdict around.bank store.registrations row).map fun _ => true)),
      (Progress.start store).moved change asked
        (handled.filterMap (request? store.registrations)))
  ends : ∀ row ∈ handled, Ends row (change row) (verdict around.bank store.registrations row)
  others : ∀ row ∈ store.deposits, row ∉ handled → change row = row
  /-- The next load finds those again that the bank did not accept. -/
  reloaded : ∀ later : Surroundings, ∃ ids after,
    later.run load (.start { store with deposits := store.deposits.map change }) =
      (.ok ids, after) ∧
    ∀ row ∈ handled, row.uuid ∈ ids ↔
      ∃ failure, verdict around.bank store.registrations row = .error failure

section Cycle

variable {ttl : Span} {around : Surroundings} {store : Store}

theorem run_load (written : ∀ row ∈ store.deposits, row.id = row.uuid.text) :
    around.run load (.start store) =
      (.ok ((Store.pendingRows store.deposits (around.clock 0)).map DepositRow.uuid),
        ⟨store, 2, []⟩) := by
  change around.run (storage (.pending (around.clock 0))) ⟨store, 1, []⟩ = _
  exact Surroundings.run_storage Failure.storage (pendingIds_ok written)

theorem reloads {handled : List DepositRow} {change : DepositRow → DepositRow}
    {result : DepositRow → Except Failure Unit} (keyed : store.Keyed)
    (written : ∀ row ∈ store.deposits, row.id = row.uuid.text)
    (among : ∀ row ∈ handled, row ∈ store.deposits)
    (ends : ∀ row ∈ handled, Ends row (change row) (result row))
    (others : ∀ row ∈ store.deposits, row ∉ handled → change row = row)
    (later : Surroundings) : ∃ ids after,
      later.run load (.start { store with deposits := store.deposits.map change }) =
        (.ok ids, after) ∧
      ∀ row ∈ handled, row.uuid ∈ ids ↔ ∃ failure, result row = .error failure := by
  -- The rows keep their ids, so those that are loaded next are told by what became of them.
  have same : ∀ row ∈ store.deposits, (change row).id = row.id := by
    intro row there
    by_cases member : row ∈ handled
    · exact (ends row member).id
    · rw [others row there member]
  have uuids : ∀ row ∈ store.deposits, (change row).uuid = row.uuid := by
    intro row there
    rw [DepositRow.uuid, same row there, DepositRow.uuid]
  have loads : later.run load (.start { store with deposits := store.deposits.map change }) = _ :=
    run_load fun after there => by
      obtain ⟨row, stored, rfl⟩ := List.mem_map.mp there
      rw [same row stored, uuids row stored]
      exact written row stored
  refine ⟨_, _, loads, fun row member => ?_⟩
  have stored := among row member
  simp only [List.mem_map, mem_pendingRows]
  constructor
  · rintro ⟨after, ⟨⟨other, there, rfl⟩, pending⟩, named⟩
    rw [uuids other there] at named
    have found : other = row := by
      apply keyed.inj there stored
      rw [written other there, named]
      exact (written row stored).symm
    subst found
    have ended := ends other member
    cases verdict : result other with
    | error failure => exact ⟨failure, rfl⟩
    | ok accepted =>
        rw [verdict] at ended
        obtain ⟨time, done⟩ := ended
        have apart : Named.text DepositStatus.actionComplete ≠
            Named.text DepositStatus.inserted := by decide
        rw [DepositRow.isPending_iff, done] at pending
        exact absurd pending.1 apart
  · rintro ⟨failure, failed⟩
    have ended := ends row member
    rw [failed] at ended
    refine ⟨change row, ⟨⟨row, stored, rfl⟩, ?_⟩, uuids row stored⟩
    rw [DepositRow.isPending_iff]
    refine ⟨ended.1, fun limit held => ?_⟩
    rw [ended.2] at held
    cases held

theorem settles (steady : around.Steady ttl) (legible : store.Legible) : ∃ change,
    Settles ttl around store (Store.pendingRows store.deposits (around.clock 0)) change := by
  have written : ∀ row ∈ store.deposits, row.id = row.uuid.text :=
    fun row there => (legible.deposits row there).written
  have left : ∀ row ∈ Store.pendingRows store.deposits (around.clock 0),
      row ∈ store.deposits ∧ row.Legible ∧ row.isPending (around.clock 0) = true := by
    intro row member
    obtain ⟨there, pending⟩ := mem_pendingRows.mp member
    exact ⟨there, legible.deposits row there, pending⟩
  have distinct : ((Store.pendingRows store.deposits (around.clock 0)).map
      DepositRow.uuid).Nodup := pendingRows_uuids legible.keyed written
  let loaded : Progress := ⟨store, 2, []⟩
  have keyed : loaded.store.Keyed := legible.keyed
  obtain ⟨change, asked, ran, ends, kept⟩ :=
    run_processAll around steady keyed (pendingRows_ids legible.keyed) left legible.registrations
  -- A row that was not loaded has none of the loaded ids, so no attempt writes to it.
  have others : ∀ row ∈ store.deposits,
      row ∉ Store.pendingRows store.deposits (around.clock 0) → change row = row := by
    intro row there absent
    apply kept
    intro named
    obtain ⟨other, member, same⟩ := List.mem_map.mp named
    exact absent (legible.keyed.inj there (left other member).1 same.symm ▸ member)
  refine ⟨change, ?_, distinct, pendingRows_queued legible.deposits, ⟨asked, ?_⟩, ends, others,
    reloads legible.keyed written (fun row member => (left row member).1) ends others⟩
  · intro row
    rw [mem_pendingRows, DepositRow.isPending_iff]
  · rw [cycle, Surroundings.run_attempt, run_load written]
    change around.run (processAll ttl (List.eraseDups _) >>= _) _ = _
    rw [eraseDups_nodup distinct, Surroundings.run_bind ran]
    rfl

end Cycle

def Surroundings.outcome? (around : Surroundings) (ttl : Span) (store : Store) (id : Uuid) :
    Option (Except Failure Bool) :=
  match (around.run (cycle ttl) (.start store)).1 with
  | .ok (_, outcomes) => outcomes.lookup id
  | .error _ => none

def Surroundings.requests (around : Surroundings) (ttl : Span) (store : Store) (id : Uuid) :
    List Bank.Request :=
  (around.run (cycle ttl) (.start store)).2.sent.filter fun request => request.id = id

section Reports

variable {rows : List DepositRow} {row : DepositRow} {registrations : List RegistrationRow}

theorem lookup_rows {β : Type} (distinct : (rows.map DepositRow.uuid).Nodup) (member : row ∈ rows)
    (result : DepositRow → β) :
    (rows.map fun row => (row.uuid, result row)).lookup row.uuid = some (result row) := by
  induction rows with
  | nil => cases member
  | cons first rest ih =>
      obtain ⟨apart, others⟩ := List.nodup_cons.mp distinct
      rw [List.map_cons, List.lookup_cons]
      rcases List.mem_cons.mp member with rfl | later
      · simp
      · have differ : row.uuid ≠ first.uuid := fun same =>
          apart (List.mem_map.mpr ⟨row, later, same⟩)
        rw [beq_eq_false_iff_ne.mpr differ]
        exact ih others later

theorem request?_id {request : Bank.Request} (asks : request? registrations row = some request) :
    request.id = row.uuid := by
  obtain ⟨account, _, rfl⟩ := Option.map_eq_some_iff.mp asks
  rfl

theorem filter_requests (distinct : (rows.map DepositRow.uuid).Nodup) (member : row ∈ rows) :
    (rows.filterMap (request? registrations)).filter (fun request => request.id = row.uuid) =
      (request? registrations row).toList := by
  -- The requests for another deposit have its id.
  have own : ∀ other : DepositRow, (request? registrations other).toList.filter
      (fun request => request.id = row.uuid) =
        if other.uuid = row.uuid then (request? registrations other).toList else [] := by
    intro other
    cases asks : request? registrations other with
    | none => simp
    | some request => simp [List.filter_singleton, request?_id asks]
  rw [List.filterMap_eq_flatMap_toList, List.filter_flatMap]
  induction rows with
  | nil => cases member
  | cons first rest ih =>
      obtain ⟨apart, others⟩ := List.nodup_cons.mp distinct
      rw [List.flatMap_cons, own]
      rcases List.mem_cons.mp member with rfl | later
      · have foreign : ∀ other ∈ rest, other.uuid ≠ row.uuid := by
          intro other there same
          exact apart (List.mem_map.mpr ⟨other, there, same⟩)
        rw [if_pos rfl, List.flatMap_eq_nil_iff.mpr, List.append_nil]
        intro other there
        rw [own, if_neg (foreign other there)]
      · have differ : first.uuid ≠ row.uuid := by
          intro same
          exact apart (List.mem_map.mpr ⟨row, later, same.symm⟩)
        rw [if_neg differ, List.nil_append]
        exact ih others later

end Reports

theorem Settles.outcome? {ttl : Span} {around : Surroundings} {store : Store}
    {handled : List DepositRow} {change : DepositRow → DepositRow} {row : DepositRow}
    (settles : Settles ttl around store handled change) (member : row ∈ handled) :
    around.outcome? ttl store row.uuid =
      some ((verdict around.bank store.registrations row).map fun _ => true) := by
  obtain ⟨asked, ran⟩ := settles.ran
  rw [Surroundings.outcome?, ran]
  exact lookup_rows settles.distinct member _

theorem Settles.requests {ttl : Span} {around : Surroundings} {store : Store}
    {handled : List DepositRow} {change : DepositRow → DepositRow} {row : DepositRow}
    (settles : Settles ttl around store handled change) (member : row ∈ handled) :
    around.requests ttl store row.uuid = (request? store.registrations row).toList := by
  obtain ⟨asked, ran⟩ := settles.ran
  rw [Surroundings.requests, ran]
  exact filter_requests settles.distinct member

/-- One cycle handles the deposits that wait when it loads, in their order, and comes to its end.
Each of them whose sender has an account costs one request to the bank. What the bank accepts is
done; all else waits on, held by nobody, and is found by the next load. No other row changes. If
some of the deposits were not in the table, the results and the requests of the others would be
the same. -/
theorem cycle_settles_each_deposit_alone {ttl : Span} {around : Surroundings} {store : Store}
    (steady : around.Steady ttl) (legible : store.Legible) : ∃ handled change,
    Settles ttl around store handled change ∧
    (∀ row ∈ handled,
      around.requests ttl store row.uuid = (request? store.registrations row).toList ∧
      ((request? store.registrations row).isSome = true ↔ row.fromAddress ≠ "" ∧
        ∃ registration ∈ store.registrations,
          registration.address = row.fromAddress ∧ registration.active = true)) ∧
    ∀ (other : Surroundings) (keep : DepositRow → Bool), other.Steady ttl →
      other.bank = around.bank → other.clock 0 = around.clock 0 →
      let fewer := { store with deposits := store.deposits.filter keep }
      (∃ otherwise, Settles ttl other fewer (handled.filter keep) otherwise) ∧
      ∀ row ∈ handled, keep row = true →
        other.outcome? ttl fewer row.uuid = around.outcome? ttl store row.uuid ∧
        other.requests ttl fewer row.uuid = around.requests ttl store row.uuid := by
  obtain ⟨change, settled⟩ := settles steady legible
  refine ⟨_, change, settled, ?_, ?_⟩
  · intro row member
    refine ⟨settled.requests member, ?_⟩
    rw [request?, Option.isSome_map]
    exact account?_isSome legible.registrations row.fromAddress
  · intro other keep calm sameBank sameTime fewer
    have legibly : fewer.Legible :=
      { keyed := (List.filter_sublist.map _).nodup legible.keyed
        deposits := fun row member => legible.deposits row (List.mem_filter.mp member).1
        registrations := legible.registrations }
    obtain ⟨otherwise, alike⟩ := settles calm legibly
    rw [sameTime, pendingRows_filter legible.deposits keep] at alike
    refine ⟨⟨otherwise, alike⟩, fun row member kept => ?_⟩
    have left := List.mem_filter.mpr ⟨member, kept⟩
    constructor
    · rw [alike.outcome? left, settled.outcome? member, sameBank]
    · rw [alike.requests left, settled.requests member]

/-! A bank that accepts all, and deposits that it hears of or not. -/

def accepting : Surroundings where
  bank _ := .ok ()
  clock _ := 0
  stamp _ := zeroStamp
  elsewhere
    | .storage _ => .error .unavailable
    | .transaction _ => .ok none
    | .block height => .ok ⟨height, zeroStamp.time⟩
    | .notifyBank _ => .ok ()
    | .openStream .. => []
    | .stamp => zeroStamp
    | .times => fun _ => zeroStamp.time
    | .clock => 0

theorem accepting_steady : accepting.Steady (.ofSeconds 60) := by
  have ends : claimEnd? 0 (.ofSeconds 60) = some 60000 := by decide +kernel
  exact ⟨fun _ => Int.le_refl _, fun _ => by rw [accepting, ends]; rfl⟩

theorem legible_row (deposit : Store.Deposit) (held : Option Store.Cell) :
    DepositRow.Legible { deposit.row with claimedUntil := held } where
  reads := ⟨deposit, Store.Deposit.read_row deposit⟩
  written := by
    rw [DepositRow.uuid, Store.Deposit.row, Uuid.ofText?_text]
    rfl

/-- The sender is linked to no account, and the claim on the deposit has ended. -/
def unlinked : DepositRow :=
  { Store.Deposit.row { oneDeposit with
      id := ⟨List.replicate 32 (Uuid.digit 11), rfl⟩, fromAddress := "b", txHash := "U" } with
    claimedUntil := some (.number (-1)) }

def mixed : Store :=
  { Store.empty with
    deposits := [oneDeposit.row, unlinked]
    registrations := [Ledger.linked "a"] }

theorem mixed_legible : mixed.Legible where
  keyed := show (mixed.deposits.map DepositRow.id).Nodup by decide
  deposits row member := by
    rcases List.mem_pair.mp member with rfl | rfl
    · exact legible_row _ _
    · exact legible_row _ _
  registrations row member := by
    rw [List.mem_singleton.mp member]
    exact ⟨_, Ledger.read_linked "a"⟩

/-- The second deposit fares the same without the first. -/
theorem one_is_accepted_and_one_waits_on : ∃ handled change,
    Settles (.ofSeconds 60) accepting mixed handled change ∧
    accepting.outcome? (.ofSeconds 60) mixed oneDeposit.row.uuid = some (.ok true) ∧
    (change unlinked).claimedUntil = none ∧
    accepting.outcome? (.ofSeconds 60)
      { mixed with deposits := mixed.deposits.filter (DepositRow.fromAddress · = "b") }
      unlinked.uuid = some (.error (.notRegistered "b")) := by
  obtain ⟨handled, change, settled, _, alike⟩ :=
    cycle_settles_each_deposit_alone accepting_steady mixed_legible
  have first : oneDeposit.row ∈ handled := (settled.waiting _).mpr (by decide)
  have second : unlinked ∈ handled := (settled.waiting _).mpr (by decide)
  obtain ⟨_, same⟩ := alike accepting (DepositRow.fromAddress · = "b") accepting_steady rfl rfl
  have accepts : verdict accepting.bank mixed.registrations oneDeposit.row = .ok () := by
    decide +kernel
  have refuses : verdict accepting.bank mixed.registrations unlinked =
      .error (.notRegistered "b") := by decide +kernel
  have ended := settled.ends unlinked second
  rw [refuses] at ended
  refine ⟨handled, change, settled, ?_, ?_, ?_⟩
  · rw [settled.outcome? first, accepts]
    rfl
  · rw [ended.2]
  · rw [(same unlinked second (by decide)).1, settled.outcome? second, refuses]
    rfl

/-- The first deposit names no sender, although the table links the empty address to an account.
The id of the second is in capital letters, in which it is read but not found again. -/
def strays : Store :=
  { Store.empty with
    deposits :=
      [{ oneDeposit.row with fromAddress := "" },
        { oneDeposit.row with id := "936DA01F-9ABD-4D9D-80C7-02AF85C822A8", txHash := "U" }]
    registrations := [Ledger.linked "", Ledger.linked "a"] }

/-- Both wait unclaimed and can be read, both senders have an active registration, and the bank
hears of neither. -/
theorem strays_go_unheard : strays.Keyed ∧
    (∀ row ∈ strays.deposits, Store.Succeeds row.read ∧ row.isPending 0 = true ∧
      ∃ registration ∈ strays.registrations,
        registration.address = row.fromAddress ∧ registration.active = true) ∧
    (∀ row ∈ strays.registrations, Store.Succeeds row.read) ∧
    accepting.Steady (.ofSeconds 60) ∧
    accepting.run (cycle (.ofSeconds 60)) (.start strays) =
      (.ok (.ok (strays.deposits.map DepositRow.uuid),
        (strays.deposits.map DepositRow.uuid).zip
          [.error (.notRegistered ""), .ok false]), ⟨strays, 7, []⟩) := by
  have keyed : (strays.deposits.map DepositRow.id).Nodup := by decide
  refine ⟨keyed, ?_, ?_, accepting_steady, ?_⟩
  · intro row member
    rcases List.mem_pair.mp member with rfl | rfl
    · exact ⟨⟨_, Store.Deposit.read_row { oneDeposit with fromAddress := "" }⟩, by decide,
        Ledger.linked "", by decide, rfl, rfl⟩
    · have foreign : ∃ id, Store.readId "uuid" "936DA01F-9ABD-4D9D-80C7-02AF85C822A8" = .ok id :=
        ⟨_, rfl⟩
      obtain ⟨id, reads⟩ := foreign
      refine ⟨⟨{ oneDeposit with id, txHash := "U" }, ?_⟩, by decide, Ledger.linked "a",
        by decide, rfl, rfl⟩
      simp only [DepositRow.read, Store.Deposit.row, reads, Store.readNumber,
        Store.readTime_stored, Store.readName, Named.ofText?_deposit]
      rfl
  · intro row member
    rcases List.mem_pair.mp member with rfl | rfl <;> exact ⟨_, Ledger.read_linked _⟩
  · have all : strays.deposits.filter (DepositRow.isPending 0) = strays.deposits := by decide
    have sorted : Store.pendingRows strays.deposits 0 = strays.deposits := by
      rw [Store.pendingRows, all]
      exact List.mergeSort_of_pairwise (by decide)
    have loads : Store.pendingIds strays.deposits 0 =
        .ok (strays.deposits.map DepositRow.uuid) := by
      rw [Store.pendingIds, sorted]
      decide +kernel
    have loaded : accepting.run load (.start strays) =
        (.ok (strays.deposits.map DepositRow.uuid), ⟨strays, 2, []⟩) :=
      Surroundings.run_storage Failure.storage loads
    have processed : accepting.run
        (processAll (.ofSeconds 60) (strays.deposits.map DepositRow.uuid).eraseDups)
        ⟨strays, 2, []⟩ = (.ok ((strays.deposits.map DepositRow.uuid).zip
          [.error (.notRegistered ""), .ok false]), ⟨strays, 7, []⟩) := by decide +kernel
    rw [cycle, Surroundings.run_attempt, loaded]
    change accepting.run (processAll _ (List.eraseDups _) >>= _) _ = _
    rw [Surroundings.run_bind processed]
    rfl

end Settlement.DepositQueue
