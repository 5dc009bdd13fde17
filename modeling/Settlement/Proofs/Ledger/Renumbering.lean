import Settlement.Proofs.Consumer.Convergence
import Settlement.Proofs.Ledger.Keys

/-!
A block recorded twice, with a directory that has changed in between. The number in a key
counts the movements that the directory admits, so a movement that is newly admitted moves
all later ones to other keys. The ledger has one row for each movement exactly if all newly
admitted movements stand after those that were admitted before.
-/

namespace Settlement

namespace Store

/-- What a row says of its movement, whatever its key and the accounts it is linked to. -/
def MovementRow.bare (row : MovementRow) : MovementRow :=
  { row with key := "", fromBank := none, toBank := none, created := "" }

end Store

namespace Ledger

open Store (Entry MovementRow)

def Admitted.bare (time : Timestamp) (admitted : Admitted) : MovementRow where
  key := ""
  legacyHash := some admitted.txHash
  fromAddress := admitted.fromAddress
  fromBank := none
  toAddress := admitted.toAddress
  toBank := none
  height := .number admitted.height
  time := time.stored
  amount := admitted.amount
  denom := admitted.denom
  kind := Named.text admitted.kind
  created := ""

def Exact (time : Timestamp) (rows : List MovementRow) (admitted : List Admitted) : Prop :=
  (rows.map MovementRow.bare).Perm (admitted.map (Admitted.bare time))

/-- The rows of the second list without those that stand where the first list has a row of the
same transaction. -/
def unmet : List MovementRow → List MovementRow → List MovementRow
  | row :: first, other :: second =>
      if row.legacyHash = other.legacyHash then unmet first second
      else other :: unmet first second
  | _, second => second

section Unmet

variable {first second candidates : List MovementRow}

theorem unmet_append (first rest : List MovementRow) : unmet first (first ++ rest) = rest := by
  induction first with
  | nil => cases rest <;> rfl
  | cons row first ih => rw [List.cons_append, unmet, if_pos rfl, ih]

theorem mem_unmet {row : MovementRow} (beyond : row ∈ second.drop first.length) :
    row ∈ unmet first second := by
  induction first generalizing second with
  | nil => cases second <;> exact beyond
  | cons other first ih =>
      cases second with
      | nil => cases beyond
      | cons next second =>
          have later := ih beyond
          unfold unmet
          split
          · exact later
          · exact List.mem_cons_of_mem _ later

/-- Two selections of one list: adding what is unmet makes the first one a permutation of the
second exactly if it is the beginning of the second. -/
theorem perm_unmet_iff {chosen wanted : MovementRow → Bool} :
    (candidates.filter chosen ++ unmet (candidates.filter chosen) (candidates.filter wanted)).Perm
        (candidates.filter wanted) ↔
      candidates.filter chosen <+: candidates.filter wanted := by
  constructor
  · intro perm
    have within : ∀ row ∈ candidates, chosen row = true → wanted row = true := by
      intro row member here
      have inFirst : row ∈ candidates.filter chosen := List.mem_filter.mpr ⟨member, here⟩
      exact (List.mem_filter.mp (perm.mem_iff.mp (List.mem_append_left _ inFirst))).2
    have narrowed : (candidates.filter wanted).filter chosen = candidates.filter chosen := by
      rw [List.filter_filter]
      apply List.filter_congr
      intro row member
      cases here : chosen row with
      | false => rfl
      | true => rw [within row member here, Bool.and_self]
    -- A row chosen before that is added again would be there once too often.
    have fresh : ∀ row ∈ unmet (candidates.filter chosen) (candidates.filter wanted),
        chosen row = false := by
      intro row added
      by_contra here
      rw [Bool.not_eq_false] at here
      have counts := perm.count_eq row
      have same : (candidates.filter wanted).count row = (candidates.filter chosen).count row := by
        rw [← narrowed, List.count_filter here]
      rw [List.count_append, same] at counts
      have occurs := List.count_pos_iff.mpr added
      omega
    have beyond : ((candidates.filter wanted).drop (candidates.filter chosen).length).filter
        chosen = [] := by
      apply List.filter_eq_nil_iff.mpr
      intro row member
      simp [fresh row (mem_unmet member)]
    have split := List.take_append_drop (candidates.filter chosen).length
      (candidates.filter wanted)
    have early : ((candidates.filter wanted).take (candidates.filter chosen).length).filter
        chosen = candidates.filter chosen := by
      rw [← List.append_nil (List.filter _ (List.take _ _)), ← beyond, ← List.filter_append, split,
        narrowed]
    -- So many rows were chosen before that they fill the beginning.
    have whole := early ▸ (List.filter_sublist (p := chosen)
      (l := (candidates.filter wanted).take (candidates.filter chosen).length))
    have same := whole.eq_of_length_le (List.length_take_le _ _)
    rw [same]
    exact List.take_prefix _ _
  · rintro ⟨rest, same⟩
    rw [← same, unmet_append]

end Unmet

section Rows

variable {time : Timestamp} {index : Nat} {admitted first second : List Admitted}

theorem bare_fact {item : Admitted} {row : MovementRow}
    (fact : (entry time index item).fact? = some row) : row.bare = item.bare time := by
  obtain ⟨movement, made, rfl⟩ := Option.map_eq_some_iff.mp fact
  obtain ⟨height, fits, made⟩ := Option.bind_eq_some_iff.mp made
  have number : height = item.height := by
    unfold Height.stored? at fits
    split at fits <;> cases fits
    rfl
  cases made
  subst number
  rfl

theorem facts_cons {item : Admitted} {rest : List Admitted}
    (fitting : ∀ entry ∈ entriesFrom time index (item :: rest), entry.fact?.isSome = true) :
    ∃ row, row.bare = item.bare time ∧ row.key = item.txHash ++ "-" ++ toString index ∧
      (entriesFrom time index (item :: rest)).filterMap Entry.fact? =
        row :: (entriesFrom time (index + 1) rest).filterMap Entry.fact? := by
  obtain ⟨row, fact⟩ := Option.isSome_iff_exists.mp (fitting _ List.mem_cons_self)
  exact ⟨row, bare_fact fact, Store.Entry.key_fact fact, List.filterMap_cons_some fact⟩

theorem keys_facts
    (fitting : ∀ entry ∈ entriesFrom time index admitted, entry.fact?.isSome = true) :
    ((entriesFrom time index admitted).filterMap Entry.fact?).map (·.key) =
      (entriesFrom time index admitted).map Entry.key := by
  induction admitted generalizing index with
  | nil => rfl
  | cons item rest ih =>
      obtain ⟨row, _, key, facts⟩ := facts_cons fitting
      rw [facts, List.map_cons, key, ih fun entry member =>
        fitting entry (List.mem_cons_of_mem _ member)]
      rfl

theorem map_bare_facts
    (fitting : ∀ entry ∈ entriesFrom time index admitted, entry.fact?.isSome = true) :
    ((entriesFrom time index admitted).filterMap Entry.fact?).map MovementRow.bare =
      admitted.map (Admitted.bare time) := by
  induction admitted generalizing index with
  | nil => rfl
  | cons item rest ih =>
      obtain ⟨row, bare, _, facts⟩ := facts_cons fitting
      rw [facts, List.map_cons, bare, List.map_cons,
        ih fun entry member => fitting entry (List.mem_cons_of_mem _ member)]

theorem map_bare_free
    (fitting : ∀ entry ∈ entriesFrom time index second, entry.fact?.isSome = true) :
    (((entriesFrom time index second).filterMap Entry.fact?).filter fun row =>
        row.key ∉ (entriesFrom time index first).map Entry.key).map MovementRow.bare =
      unmet (first.map (Admitted.bare time)) (second.map (Admitted.bare time)) := by
  induction first generalizing index second with
  | nil =>
      have all : ∀ rows : List MovementRow, (rows.filter fun row =>
          row.key ∉ (entriesFrom time index []).map Entry.key) = rows := by
        simp [entriesFrom]
      rw [all, map_bare_facts fitting]
      cases second <;> rfl
  | cons item first ih =>
      cases second with
      | nil => rfl
      | cons other second =>
          obtain ⟨row, bare, key, facts⟩ := facts_cons fitting
          have taken : row.key ∈ (entriesFrom time index (item :: first)).map Entry.key ↔
              item.txHash = other.txHash := by
            rw [key, mem_keys_entriesFrom]
            constructor
            · rintro ⟨offset, found, here, same⟩
              obtain ⟨hash, number⟩ := key_inj same
              obtain rfl : offset = 0 := by omega
              cases here
              exact hash.symm
            · intro same
              exact ⟨0, item, rfl, by rw [same, Nat.add_zero]⟩
          -- A key with a later number is not the first one.
          have later : (((entriesFrom time (index + 1) second).filterMap Entry.fact?).filter
              fun row => row.key ∉ (entriesFrom time index (item :: first)).map Entry.key) =
              ((entriesFrom time (index + 1) second).filterMap Entry.fact?).filter
                fun row => row.key ∉ (entriesFrom time (index + 1) first).map Entry.key := by
            apply List.filter_congr
            intro row member
            obtain ⟨written, present, fact⟩ := List.mem_filterMap.mp member
            have numbered := List.mem_map_of_mem (f := Entry.key) present
            obtain ⟨offset, found, _, same⟩ := mem_keys_entriesFrom.mp numbered
            have different : row.key ≠ (entry time index item).key := by
              rw [Store.Entry.key_fact fact, same]
              intro equal
              have number := (key_inj equal).2
              omega
            simp only [entriesFrom, List.map_cons, List.mem_cons, different, false_or]
          have tail := ih fun written member => fitting written (List.mem_cons_of_mem _ member)
          rw [facts, List.map_cons, List.map_cons, unmet]
          by_cases same : item.txHash = other.txHash
          · rw [List.filter_cons_of_neg (by simpa using taken.mpr same), later, tail,
              if_pos (by simp [Admitted.bare, same])]
          · rw [List.filter_cons_of_pos (by simpa using mt taken.mp same), List.map_cons, later,
              tail, bare, if_neg (by simpa [Admitted.bare] using same)]

end Rows

section Selection

variable (settings : Settings) (time : Timestamp) (account : String → Option Uuid)

def isLinked (row : MovementRow) : Bool :=
  if row.kind = Named.text MovementKind.mint then (account row.toAddress).isSome
  else if row.kind = Named.text MovementKind.burn then (account row.fromAddress).isSome
  else (account row.fromAddress).isSome || (account row.toAddress).isSome

def linkAll (_ : String) : Option Uuid := some .zero

theorem bare_admittedMint (mint : Chain.Mint) :
    (admittedMint account mint).map (Admitted.bare time) =
      ((admittedMint linkAll mint).map (Admitted.bare time)).filter (isLinked account) := by
  unfold admittedMint
  split
  · rfl
  · cases linked : account mint.withdrawAddress <;>
      simp [linkAll, isLinked, Admitted.bare, Option.filter, linked]

theorem bare_admittedBurn (transfer : Chain.Transfer) :
    (admittedBurn settings account transfer).map (Admitted.bare time) =
      ((admittedBurn settings linkAll transfer).map (Admitted.bare time)).filter
        (isLinked account) := by
  have other : Named.text MovementKind.burn ≠ Named.text MovementKind.mint := by decide
  unfold admittedBurn
  split
  · rfl
  · split
    · rfl
    · cases linked : account transfer.sender <;>
        simp [linkAll, isLinked, Admitted.bare, Option.filter, linked, other]

theorem bare_admittedTransfer (transfer : Chain.MarkerTransfer) :
    (admittedTransfer settings account transfer).map (Admitted.bare time) =
      ((admittedTransfer settings linkAll transfer).map (Admitted.bare time)).filter
        (isLinked account) := by
  have other : Named.text MovementKind.transfer ≠ Named.text MovementKind.mint ∧
      Named.text MovementKind.transfer ≠ Named.text MovementKind.burn := by decide
  unfold admittedTransfer
  split
  · rfl
  · cases sender : account transfer.fromAddress <;>
      cases recipient : account transfer.toAddress <;>
        simp [linkAll, isLinked, Admitted.bare, Option.filter, sender, recipient, other]

/-- What a directory admits is a selection from what it would admit if all addresses were
linked. -/
theorem bare_admittedBlock (mints : List Chain.Mint) (burns : List Chain.Transfer)
    (transfers : List Chain.MarkerTransfer) :
    (admittedBlock settings account mints burns transfers).map (Admitted.bare time) =
      ((admittedBlock settings linkAll mints burns transfers).map (Admitted.bare time)).filter
        (isLinked account) := by
  simp only [admittedBlock, List.map_append, List.filter_append, List.map_filterMap,
    List.filter_filterMap, bare_admittedMint time account, bare_admittedBurn settings time account,
    bare_admittedTransfer settings time account]

end Selection

section Deliveries

variable {settings : Consumer.Settings} {history : History} {last : Nat} {batch : Chain.Batch}

theorem append_of_recorded {before after : Store} {count : Nat}
    (recorded : Activity.Run (history.steady last) (fun _ => False)
      (Consumer.recordBlock settings batch.height batch) before (.done (.ok count)) after) :
    Store.appendFacts ((Intake.ofStore settings history before).entries batch)
        (before.movements.map MovementRow.facts) =
      some (after.movements.map MovementRow.facts) := by
  let intake := Intake.ofStore settings history before
  have known : Consumer.Known intake before := ⟨rfl, rfl⟩
  have keeps := Consumer.keeps_recordBlock (intake.conduct_steady last) batch before trivial known
    (fun _ _ _ _ _ _ _ => (trivial : (fun _ _ : Store => True) _ _))
  obtain ⟨_, _, taken⟩ := recorded.keeps_once keeps
  obtain ⟨movements, appended, same⟩ := Option.map_eq_some_iff.mp taken
  have rows : movements = after.movements.map MovementRow.facts :=
    congrArg Records.movements same
  rw [← rows]
  exact appended

theorem not_taken {start : Store} {intake : Intake} {time : Timestamp} {row : MovementRow}
    (free : ∀ row ∈ start.movements, ∀ event ∈ batch.events, ∀ index : Nat,
      row.key ≠ event.txHash ++ "-" ++ toString index)
    (member : row ∈ (entriesFrom time 0 (intake.admitted batch)).filterMap Entry.fact?) :
    row.key ∉ (start.movements.map MovementRow.facts).map (·.key) := by
  obtain ⟨written, present, fact⟩ := List.mem_filterMap.mp member
  have numbered := List.mem_map_of_mem (f := Entry.key) present
  obtain ⟨offset, item, found, same⟩ := mem_keys_entriesFrom.mp numbered
  obtain ⟨event, here, hash⟩ := Intake.hash_admitted (List.mem_of_getElem? found)
  rw [List.map_map, Store.Entry.key_fact fact, same, ← hash]
  intro taken
  obtain ⟨other, there, equal⟩ := List.mem_map.mp taken
  exact free other there event here _ equal

/-- A block is recorded, the directory changes, and the block is recorded again. Afterwards the
ledger has exactly one row for each movement that the directory admits by then if and only if
all newly admitted movements stand after those that it admitted before. -/
theorem exact_iff_new_movements_last {start middle between final : Store} {first second : Nat}
    (free : ∀ row ∈ start.movements, ∀ event ∈ batch.events, ∀ index : Nat,
      row.key ≠ event.txHash ++ "-" ++ toString index)
    (recorded : Activity.Run (history.steady last) (fun _ => False)
      (Consumer.recordBlock settings batch.height batch) start (.done (.ok first)) middle)
    (kept : between.movements = middle.movements)
    (again : Activity.Run (history.steady last) (fun _ => False)
      (Consumer.recordBlock settings batch.height batch) between (.done (.ok second)) final) :
    let time := (history.block batch.height).time
    let before := (Intake.ofStore settings history start).admitted batch
    let after := (Intake.ofStore settings history between).admitted batch
    let rows := final.movements.drop start.movements.length
    rows.map MovementRow.bare = before.map (Admitted.bare time) ++
        unmet (before.map (Admitted.bare time)) (after.map (Admitted.bare time)) ∧
      (Exact time rows after ↔
        before.map (Admitted.bare time) <+: after.map (Admitted.bare time)) := by
  intro time before after rows
  obtain ⟨fitting, added⟩ := Store.appendFacts_some (nodup_keys_entriesFrom _ _ _)
    (append_of_recorded recorded)
  obtain ⟨fittingAgain, addedAgain⟩ := Store.appendFacts_some (nodup_keys_entriesFrom _ _ _)
    (append_of_recorded again)
  let old := (entriesFrom time 0 before).filterMap Entry.fact?
  let new := (entriesFrom time 0 after).filterMap Entry.fact?
  have keys : old.map (·.key) = (entriesFrom time 0 before).map Entry.key := keys_facts fitting
  have middle_facts : middle.movements.map MovementRow.facts =
      start.movements.map MovementRow.facts ++ old := by
    rw [added]
    congr 1
    exact List.filter_eq_self.mpr fun row member => by simpa using not_taken free member
  -- The second delivery adds the rows whose keys the first one did not use.
  have final_facts : final.movements.map MovementRow.facts =
      start.movements.map MovementRow.facts ++ (old ++ new.filter fun row =>
        row.key ∉ (entriesFrom time 0 before).map Entry.key) := by
    rw [addedAgain, kept, middle_facts, List.append_assoc]
    congr 2
    apply List.filter_congr
    intro row member
    have apart := not_taken free member
    simp only [List.map_append, List.mem_append, apart, false_or, keys]
  have content : rows.map MovementRow.bare = before.map (Admitted.bare time) ++
      unmet (before.map (Admitted.bare time)) (after.map (Admitted.bare time)) := by
    have bare : ∀ rows : List MovementRow,
        rows.map MovementRow.bare = (rows.map MovementRow.facts).map MovementRow.bare := by
      intro rows
      rw [List.map_map]
      rfl
    have first : old.map MovementRow.bare = before.map (Admitted.bare time) :=
      map_bare_facts fitting
    have second : (new.filter fun row => row.key ∉ (entriesFrom time 0 before).map Entry.key).map
        MovementRow.bare = unmet (before.map (Admitted.bare time))
          (after.map (Admitted.bare time)) := map_bare_free fittingAgain
    rw [bare, List.map_drop, final_facts, List.drop_left' (by simp), List.map_append, first, second]
  refine ⟨content, ?_⟩
  unfold Exact
  rw [content]
  simp only [before, after, Intake.admitted, bare_admittedBlock _ time (Directory.account _)]
  exact perm_unmet_iff

/-! Two transfers in one transaction, and an address that is linked to an account. -/

def twoTransfers : Chain.Batch where
  height := 1
  events := [
    ⟨Chain.Event.markerTransferType, "T", 1,
      [("from_address", "a"), ("to_address", "x"), ("amount", "1"), ("denom", "b")]⟩,
    ⟨Chain.Event.markerTransferType, "T", 1,
      [("from_address", "y"), ("to_address", "x"), ("amount", "2"), ("denom", "b")]⟩]

def uneventful : History where
  batch height := ⟨height, []⟩
  batch_height _ := rfl
  transaction _ := none
  block height := ⟨height, zeroStamp.time⟩

def linked (address : String) : Store.RegistrationRow :=
  ⟨zeroStamp.id.text, address, zeroStamp.id.text, true, zeroStamp.time.stored⟩

def link (address : String) : Store.Registration :=
  ⟨zeroStamp.id, address, zeroStamp.id, true, zeroStamp.time⟩

theorem read_linked (address : String) : (linked address).read = .ok (link address) := by
  simp only [linked, Store.RegistrationRow.read, Store.readId_text, Store.readTime_stored]
  rfl

theorem found_linked {rows : List Store.RegistrationRow} {address : String}
    (chosen : rows.filter (fun row => row.address = address) = [linked address]) :
    Store.latestRegistration rows address = .ok (some (link address)) := by
  rw [Store.latestRegistration, chosen]
  simp only [Store.newest, Store.readOptional, read_linked]
  rfl

theorem account_linked {rows : List Store.RegistrationRow} {address : String}
    (chosen : rows.filter (fun row => row.address = address) = [linked address])
    (filled : address.isEmpty = false) : Directory.account rows address = some zeroStamp.id := by
  rw [Directory.account, if_neg (by simp [filled]), found_linked chosen]
  rfl

theorem told {store : Store} (address : String) (found : Option Store.Registration)
    (known : Store.latestRegistration store.registrations address = .ok found) :
    uneventful.steady 0 (.storage (.registration address)) store (.ok found) store :=
  ⟨trivial, by rw [Store.Statement.run, known]⟩

def secondTransfer : MovementRow where
  key := "T-0"
  legacyHash := some "T"
  fromAddress := "y"
  fromBank := some zeroStamp.id.text
  toAddress := "x"
  toBank := none
  height := .number 1
  time := zeroStamp.time.stored
  amount := "2"
  denom := "b"
  kind := Named.text MovementKind.transfer
  created := zeroStamp.time.stored

def oneLink : Store := { Store.empty with registrations := [linked "y"] }

def recordedOnce : Store := { oneLink with movements := [secondTransfer] }

def twoLinks : Store := { recordedOnce with registrations := [linked "y", linked "a"] }

def recordedTwice : Store :=
  { twoLinks with movements := [secondTransfer, { secondTransfer with key := "T-1" }] }

theorem recorded_once : Activity.Run (uneventful.steady 0) (fun _ => False)
    (Consumer.recordBlock fromGenesis 1 twoTransfers) oneLink (.done (.ok 1)) recordedOnce := by
  have begun : Activity.Run (uneventful.steady 0) (fun _ => False)
    (Consumer.recordBlock fromGenesis 1 twoTransfers) oneLink _ _ := .begin
  have sender := begun.answer (told "a" none rfl)
  have recipient := sender.answer (told "x" none rfl)
  have other := recipient.answer (told "y" (some (link "y"))
    (found_linked (by simp [oneLink, linked])))
  have others := other.answer (told "x" none rfl)
  have timed := others.answer (show uneventful.steady 0 (.block 1) _ _ _ from ⟨rfl, rfl⟩)
  have stamped := timed.answer (show uneventful.steady 0 .times _ zeroTimes _ from rfl)
  exact stamped.answer ⟨trivial, rfl⟩

theorem recorded_twice : Activity.Run (uneventful.steady 0) (fun _ => False)
    (Consumer.recordBlock fromGenesis 1 twoTransfers) twoLinks (.done (.ok 1)) recordedTwice := by
  have begun : Activity.Run (uneventful.steady 0) (fun _ => False)
    (Consumer.recordBlock fromGenesis 1 twoTransfers) twoLinks _ _ := .begin
  have sender := begun.answer (told "a" (some (link "a"))
    (found_linked (by simp [twoLinks, linked])))
  have recipient := sender.answer (told "x" none rfl)
  have other := recipient.answer (told "y" (some (link "y"))
    (found_linked (by simp [twoLinks, linked])))
  have others := other.answer (told "x" none rfl)
  have timed := others.answer (show uneventful.steady 0 (.block 1) _ _ _ from ⟨rfl, rfl⟩)
  have stamped := timed.answer (show uneventful.steady 0 .times _ zeroTimes _ from rfl)
  exact stamped.answer ⟨trivial, rfl⟩

theorem admitted_twoTransfers {store : Store}
    (recipient : Directory.account store.registrations "x" = none)
    (sender : Directory.account store.registrations "y" = some zeroStamp.id) :
    (Intake.ofStore fromGenesis uneventful store).admitted twoTransfers =
      ((Directory.account store.registrations "a").map fun account =>
        ⟨"T", 1, "a", some account, "x", none, "1", "b", .transfer⟩).toList ++
      [⟨"T", 1, "y", some zeroStamp.id, "x", none, "2", "b", .transfer⟩] := by
  have moved : twoTransfers.markerTransfers =
      [⟨"T", 1, "a", "x", "1", "b"⟩, ⟨"T", 1, "y", "x", "2", "b"⟩] := rfl
  have minted : twoTransfers.mints fromGenesis.contract = [] := rfl
  have burned : twoTransfers.transfers fromGenesis.contract = [] := rfl
  simp only [Intake.admitted, Intake.ofStore, admittedBlock, moved, minted, burned]
  cases other : Directory.account store.registrations "a" <;>
    simp [admittedTransfer, recipient, sender, other, Consumer.Settings.ledger, fromGenesis]

/-- The row that stands for the second transfer keeps the first number, and the second transfer
is written once more. -/
theorem new_link_repeats_a_movement :
    recordedTwice.movements.map (fun row => (row.key, row.fromAddress)) =
      [("T-0", "y"), ("T-1", "y")] ∧
    ¬ Exact zeroStamp.time recordedTwice.movements
      ((Intake.ofStore fromGenesis uneventful twoLinks).admitted twoTransfers) := by
  obtain ⟨_, exact_iff⟩ := exact_iff_new_movements_last (by simp [oneLink, Store.empty])
    recorded_once (show twoLinks.movements = _ from rfl) recorded_twice
  refine ⟨rfl, mt exact_iff.mp ?_⟩
  have nobody : Directory.account oneLink.registrations "a" = none := rfl
  rw [admitted_twoTransfers rfl (account_linked (by simp [oneLink, linked]) rfl),
    admitted_twoTransfers rfl (account_linked (by simp [twoLinks, linked]) rfl), nobody,
    show Directory.account twoLinks.registrations "a" = _ from
      account_linked (by simp [twoLinks, linked]) rfl]
  simp [Admitted.bare]

end Deliveries

end Ledger

end Settlement
