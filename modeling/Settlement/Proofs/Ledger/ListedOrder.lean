import Settlement.Proofs.Ledger.Offering
import Settlement.Proofs.Store.Listing
import Settlement.Proofs.Text.Digits

/-!
The order in which the movements of a transaction are listed. The listing goes by the heights of
the rows and then by their keys, and a key ends in a number that is compared as a text. So the
movements stand in the order of their numbers as long as no number has a digit more than another,
and for more of them the exact condition is about the first digits of the greater number.
-/

namespace Settlement

open Store (MovementRow Listed Kept window)

namespace Ledger

/-- The keys of a transaction stand in the order of their numbers. -/
def InNumberOrder (hash : String) (keys : List String) : Prop :=
  keys.Pairwise fun a b => ∀ first second : Nat, a = hash ++ "-" ++ toString first →
    b = hash ++ "-" ++ toString second → first < second

/-- Every listing that there is keeps to the numbers of the transaction. -/
def KeepsToNumbers (hash : String) (rows : List MovementRow) : Prop :=
  ∀ (first last : Option Timestamp) (offset limit : Int) (lines : List Listed),
    Store.list rows first last offset limit = .ok lines →
      InNumberOrder hash (lines.map (·.movement.key))

/-- The movement with the first number is listed before the one with the second number. -/
def ComesBefore (first second : Nat) (a b : Admitted) : Prop :=
  a.height < b.height ∨ a.height = b.height ∧ first ≤ Text.Decimal.leading first second

section Rows

variable {time now later : Timestamp} {first second : Nat} {item other : Admitted}

theorem row_readable (time now : Timestamp) (number : Nat) (item : Admitted) :
    Store.Succeeds (item.row time now number).read :=
  ⟨_, Store.Movement.read_row ⟨item.txHash ++ "-" ++ toString number, some item.txHash,
    item.fromAddress, item.fromBank, item.toAddress, item.toBank, item.height, time, item.amount,
    item.denom, item.kind⟩ now⟩

theorem key_lt_iff (hash : String) (less : first < second) :
    hash ++ "-" ++ toString first < hash ++ "-" ++ toString second ↔
      first ≤ Text.Decimal.leading first second := by
  rw [String.lt_iff, String.toList_append, String.toList_append (t := toString second),
    Text.Decimal.append_lt_append_iff rfl, Text.Decimal.toString_lt_iff less]
  simp only [List.lt_irrefl, false_or, true_and]

theorem precedes_iff (same : item.txHash = other.txHash) (less : first < second) :
    (item.row time now first).Precedes (other.row time later second) ↔
      ComesBefore first second item other := by
  rw [ComesBefore, ← key_lt_iff item.txHash less]
  constructor
  · rintro ⟨m, n, low, high, order⟩
    obtain rfl := Store.Cell.number.inj low
    obtain rfl := Store.Cell.number.inj high
    rw [same]
    rcases order with lower | ⟨level, lower⟩
    · exact .inl (by omega)
    · exact .inr ⟨by omega, by simpa only [Admitted.row, same] using lower⟩
  · rintro (lower | ⟨level, lower⟩)
    · exact ⟨_, _, rfl, rfl, .inl (by omega)⟩
    · refine ⟨_, _, rfl, rfl, .inr ⟨by omega, ?_⟩⟩
      rw [same] at lower
      simpa only [Admitted.row, same] using lower

end Rows

section Listing

variable {time : Timestamp} {now : Nat → Timestamp} {hash : String} {admitted : List Admitted}
  {before rows : List MovementRow}

theorem kept_entered {start final : Store} {count : Nat} (kept : Kept start.movements)
    (entered : Entered time admitted start count final) : Kept final.movements := by
  obtain ⟨now, rfl, _⟩ := entered
  constructor
  · intro row member
    rcases List.mem_append.mp member with old | new
    · exact kept.readable row old
    · obtain ⟨offset, item, _, rfl⟩ := mem_offered.mp (List.mem_filter.mp new).1
      exact row_readable time _ _ item
  · rw [List.map_append, List.nodup_append]
    refine ⟨kept.distinct, ?_, ?_⟩
    · exact (List.filter_sublist.map _).nodup (nodup_keys_offered time now 0 admitted)
    · intro key old other new same
      obtain ⟨row, there, rfl⟩ := List.mem_map.mp new
      have free := (List.mem_filter.mp there).2
      simp only [decide_eq_true_eq] at free
      exact free (same ▸ old)

/-- The rows of a transaction that was not in the ledger are those of its movements. -/
structure Enters (time : Timestamp) (now : Nat → Timestamp) (hash : String)
    (admitted : List Admitted) (rows : List MovementRow) : Prop where
  only : ∀ row ∈ rows, ∀ number : Nat, row.key = hash ++ "-" ++ toString number →
    ∃ item, admitted[number]? = some item ∧ item.txHash = hash ∧
      row = item.row time (now number) number
  all : ∀ (number : Nat) (item : Admitted), admitted[number]? = some item → item.txHash = hash →
    item.row time (now number) number ∈ rows

theorem enters_offered (free : ∀ row ∈ before, ¬ row.mentions hash) :
    Enters time now hash admitted (before ++
      (offered time now 0 admitted).filter fun row => row.key ∉ before.map (·.key)) := by
  constructor
  · intro row member number key
    rcases List.mem_append.mp member with old | new
    · exact absurd (.inr ⟨number, key⟩) (free row old)
    · obtain ⟨offset, item, found, rfl⟩ := mem_offered.mp (List.mem_filter.mp new).1
      obtain ⟨same, equal⟩ : _ ∧ 0 + offset = number := key_inj key
      obtain rfl : offset = number := by omega
      exact ⟨item, found, same, by rw [Nat.zero_add]⟩
  · rintro number item found rfl
    refine List.mem_append_right _ (List.mem_filter.mpr ⟨?_, ?_⟩)
    · exact mem_offered.mpr ⟨number, item, found, by rw [Nat.zero_add]⟩
    · have unmet : (item.row time (now number) number).key ∉ before.map (·.key) := by
        intro taken
        obtain ⟨row, member, same⟩ := List.mem_map.mp taken
        exact free row member (.inr ⟨number, same⟩)
      simpa using unmet

variable (kept : Kept rows) (enters : Enters time now hash admitted rows)

include kept enters

theorem inNumberOrder_listed
    (orderly : ∀ (first second : Nat) (a b : Admitted), first < second →
      admitted[first]? = some a → admitted[second]? = some b → a.txHash = hash →
      b.txHash = hash → ComesBefore first second a b)
    {first last : Option Timestamp} {offset limit : Int} {lines : List Listed}
    (listed : Store.list rows first last offset limit = .ok lines) :
    InNumberOrder hash (lines.map (·.movement.key)) := by
  have within : (Store.listedRows rows first last offset limit).Sublist (window rows first last) :=
    Store.listedRows_sublist offset limit
  rw [kept.listed_keys listed, InNumberOrder, List.pairwise_map]
  refine (kept.window_pairwise.sublist within).imp_of_mem ?_
  intro row next here there precedes low high left right
  obtain ⟨a, foundLow, own, rfl⟩ :=
    enters.only row (Store.mem_window.mp (within.subset here)).1 low left
  obtain ⟨b, foundHigh, same, rfl⟩ :=
    enters.only next (Store.mem_window.mp (within.subset there)).1 high right
  rcases Nat.lt_trichotomy low high with less | rfl | greater
  · exact less
  · obtain rfl := Option.some.inj (foundLow.symm.trans foundHigh)
    exact absurd precedes precedes.asymm
  · have order := orderly high low b a greater foundHigh foundLow same own
    exact absurd precedes ((precedes_iff (same.trans own.symm) greater).mpr order).asymm

theorem comesBefore_of_listed {lines : List Listed}
    (listed : Store.list rows none none 0 (-1) = .ok lines)
    (ordered : InNumberOrder hash (lines.map (·.movement.key))) {first second : Nat}
    {a b : Admitted} (less : first < second) (here : admitted[first]? = some a)
    (there : admitted[second]? = some b) (own : a.txHash = hash) (same : b.txHash = hash) :
    ComesBefore first second a b := by
  have whole : Store.listedRows rows none none 0 (-1) = window rows none none := rfl
  have shown : ∀ row ∈ rows, row ∈ window rows none none :=
    fun row member => Store.mem_window.mpr ⟨member, rfl⟩
  rw [kept.listed_keys listed, whole, InNumberOrder, List.pairwise_map] at ordered
  let low := a.row time (now first) first
  let high := b.row time (now second) second
  -- One of the two rows stands first, and the one with the greater number does not.
  have decided : ∀ row ∈ window rows none none, ∀ next ∈ window rows none none,
      row = low → next = high → ComesBefore first second a b := by
    refine List.Pairwise.forall_of_forall_of_flip ?_ ?_ ?_
    · rintro row _ rfl equal
      have number := (key_inj (congrArg MovementRow.key equal)).2
      omega
    · refine kept.window_pairwise.imp ?_
      rintro row next precedes rfl rfl
      exact (precedes_iff (own.trans same.symm) less).mp precedes
    · refine ordered.imp ?_
      rintro next row order rfl rfl
      have reversed := order second first (by rw [← same]; rfl) (by rw [← own]; rfl)
      omega
  exact decided low (shown _ (enters.all first a here own)) high
    (shown _ (enters.all second b there same)) rfl rfl

end Listing

section Recorded

variable {settings : Settings} {resolve : Resolve} {account : String → Option Uuid}
  {history : History} {height : Nat} {mints : List Chain.Mint} {burns : List Chain.Transfer}
  {transfers : List Chain.MarkerTransfer} {start final : Store} {count : Nat} {hash : String}

/-- After a block is recorded every listing succeeds, and the listing of everything has a line for
each movement. The movements of a transaction that is new to the ledger are listed in the order of
their numbers if and only if each of them has a lesser height than those with greater numbers, or
the same height and a number that is not greater than what the first digits of theirs make. So it
is for up to ten movements of one height. -/
theorem listing_keeps_to_numbers_iff (kept : Kept start.movements)
    (directory : Consumer.Resolves history.answers (fun _ _ => True) True resolve account start)
    (recorded : Activity.Run history.answers (fun _ => False)
      (recordBlock settings resolve height mints burns transfers) start (.done (.ok count)) final)
    (free : ∀ row ∈ start.movements, ¬ row.mentions hash) :
    let admitted := admittedBlock settings account mints burns transfers
    (∀ first last offset limit, ∃ lines,
      Store.list final.movements first last offset limit = .ok lines) ∧
    (∀ lines, Store.list final.movements none none 0 (-1) = .ok lines →
      ∀ (number : Nat) (item : Admitted), admitted[number]? = some item → item.txHash = hash →
        hash ++ "-" ++ toString number ∈ lines.map (·.movement.key)) ∧
    (KeepsToNumbers hash final.movements ↔ ∀ (first second : Nat) (a b : Admitted),
      first < second → admitted[first]? = some a → admitted[second]? = some b →
      a.txHash = hash → b.txHash = hash → ComesBefore first second a b) ∧
    (admitted.length ≤ 10 → (∀ item ∈ admitted, item.height = height) →
      KeepsToNumbers hash final.movements) := by
  intro admitted
  have entered := recorded.keeps_once (keeps_recordBlock directory) count rfl
  have keeps := kept_entered kept entered
  obtain ⟨now, rfl, _⟩ := entered
  have enters : Enters (history.block height).time now hash admitted _ := enters_offered free
  refine ⟨?_, ?_, ?_, ?_⟩
  · intro first last offset limit
    obtain ⟨lines, listed, _⟩ := keeps.listed first last offset limit
    exact ⟨lines, listed⟩
  · rintro lines listed number item found rfl
    have there := enters.all number item found rfl
    rw [keeps.listed_keys listed]
    exact List.mem_map.mpr ⟨_, Store.mem_window.mpr ⟨there, rfl⟩, rfl⟩
  · constructor
    · intro ordered first second a b less here there own same
      obtain ⟨lines, listed, _⟩ := keeps.listed none none 0 (-1)
      exact comesBefore_of_listed keeps enters listed (ordered _ _ _ _ _ listed) less here there
        own same
    · exact fun orderly _ _ _ _ _ => inNumberOrder_listed keeps enters orderly
  · intro few level first last offset limit lines
    refine inNumberOrder_listed keeps enters fun low high a b less here there _ _ => .inr ⟨?_, ?_⟩
    · rw [level a (List.mem_of_getElem? here), level b (List.mem_of_getElem? there)]
    · have bound := (List.getElem?_eq_some_iff.mp there).1
      rw [Text.Decimal.leading_digit (by omega) (by omega)]
      exact Nat.le_of_lt less

def elevenTransfers : List Chain.MarkerTransfer :=
  (List.range 11).map fun number => ⟨"T", 1, "a", "x", toString number, "b"⟩

theorem eleven_movements_are_listed_out_of_order : ∃ final,
    Activity.Run (uneventful.steady 0) (fun _ => False)
      (recordBlock fromGenesis.ledger (fun address => pure (linkAll address)) 1 [] []
        elevenTransfers) Store.empty (.done (.ok 11)) final ∧
    ¬ KeepsToNumbers "T" final.movements := by
  have directory : Consumer.Resolves uneventful.answers (fun _ _ => True) True
      (fun address => pure (linkAll address)) linkAll Store.empty := fun _ => ⟨rfl, rfl⟩
  have begun : Activity.Run (uneventful.steady 0) (fun _ => False)
      (recordBlock fromGenesis.ledger (fun address => pure (linkAll address)) 1 [] []
        elevenTransfers) Store.empty _ _ := .begin
  have timed := begun.answer (show uneventful.steady 0 (.block 1) _ _ _ from ⟨rfl, rfl⟩)
  have stamped := timed.answer (show uneventful.steady 0 .times _ zeroTimes _ from rfl)
  have recorded := stamped.answer
    (show uneventful.steady 0 (.storage (.append _ _)) _ (.ok (some 11)) _ from ⟨trivial, rfl⟩)
  have free : ∀ row ∈ Store.empty.movements, ¬ row.mentions "T" := by simp [Store.empty]
  obtain ⟨_, _, ordered, _⟩ := listing_keeps_to_numbers_iff
    ⟨by simp [Store.empty], by simp [Store.empty]⟩ directory
    (recorded.mono (uneventful.answers_steady 0)) free
  refine ⟨_, recorded, mt ordered.mp ?_⟩
  intro orderly
  have later : ¬ 2 ≤ Text.Decimal.leading 2 10 := by decide
  rcases orderly 2 10 _ _ (by decide) rfl rfl rfl rfl with less | ⟨_, within⟩
  · exact absurd less (Nat.lt_irrefl 1)
  · exact later within

end Recorded

end Ledger

end Settlement
