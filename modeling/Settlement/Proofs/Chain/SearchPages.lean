import Mathlib.Data.List.Forall2
import Settlement.Chain.Search

/-!
The result of a search does not depend on how the node cuts a block's transactions into pages.
What the node writes is said member by member and apart from the reader: a record is an object
that has each of its own members at most once, among others and in any order.
-/

namespace Settlement.Chain

section Records

def Holds (members : List (String × Json)) (name : String) (content : Option Json) : Prop :=
  (members.filter fun entry => entry.1 = name) = content.toList.map fun value => (name, value)

def HoldsList {α : Type} (writes : α → Json → Prop) (members : List (String × Json))
    (name : String) (values : List α) : Prop :=
  (∃ items, Holds members name (some (.array items)) ∧ List.Forall₂ writes values items) ∨
    values = [] ∧ Holds members name none

/-- An event as the node has it. An attribute may be without a value. -/
structure NodeEvent where
  type : String
  attributes : List (String × Option String)
  deriving DecidableEq

structure NodeTx where
  hash : String
  height : Nat
  events : List NodeEvent
  deriving DecidableEq

def WritesNumber (number : Nat) (json : Json) : Prop :=
  ∃ text, json = .string text ∧ Text.Decimal.unsigned? text = some number

def WritesAttribute (field : String × Option String) (json : Json) : Prop :=
  ∃ members, json = .object members ∧ Holds members "key" (some (.string field.1)) ∧
    (Holds members "value" (field.2.map .string) ∨
      field.2 = none ∧ Holds members "value" (some .null))

def WritesEvent (event : NodeEvent) (json : Json) : Prop :=
  ∃ members, json = .object members ∧ Holds members "type" (some (.string event.type)) ∧
    HoldsList WritesAttribute members "attributes" event.attributes

def WritesTx (tx : NodeTx) (json : Json) : Prop :=
  ∃ members height result, json = .object members ∧
    Holds members "hash" (some (.string tx.hash)) ∧
    Holds members "height" (some height) ∧ WritesNumber tx.height height ∧
    Holds members "tx_result" (some (.object result)) ∧
    HoldsList WritesEvent result "events" tx.events

/-- The answer has these transactions and says how many there are in all. -/
def WritesPage (total : Nat) (transactions : List NodeTx) (answer : Rpc.Answer) : Prop :=
  ∃ members items count, answer = .result (.object members) ∧
    Holds members "txs" (some (.array items)) ∧ List.Forall₂ WritesTx transactions items ∧
    Holds members "total_count" (some count) ∧ WritesNumber total count

end Records

section Reading

variable {members : List (String × Json)} {name : String} {json : Json}

theorem Holds.member? {content : Option Json} (holds : Holds members name content) :
    (Json.object members).member? name = content := by
  rw [Json.member?, ← List.head?_filter, List.filter_reverse, holds]
  cases content <;> rfl

theorem Holds.countP_le {content : Option Json} (holds : Holds members name content) :
    members.countP (fun entry => entry.1 = name) ≤ 1 := by
  rw [List.countP_eq_length_filter, holds]
  cases content <;> simp

theorem distinctFields?_holds {names : List String} {contents : List (Option Json)}
    (holds : List.Forall₂ (Holds members) names contents) :
    distinctFields? names (.object members) = some contents := by
  have once : ∀ name ∈ names, members.countP (fun entry => entry.1 = name) ≤ 1 := by
    induction holds with
    | nil => simp
    | cons first _ ih => simpa using ⟨first.countP_le, by simpa using ih⟩
  have read : names.map (fun name => (Json.object members).member? name) = contents := by
    clear once
    induction holds with
    | nil => rfl
    | cons first _ ih => rw [List.map_cons, first.member?, ih]
  rw [distinctFields?, if_pos (by simpa using once), fields?, read]

theorem mapM_written {α β : Type} {writes : α → Json → Prop} {read : Json → Option β}
    {seen : α → β} (reads : ∀ ⦃value json⦄, writes value json → read json = some (seen value))
    {values : List α} {items : List Json} (written : List.Forall₂ writes values items) :
    items.mapM read = some (values.map seen) := by
  induction written with
  | nil => rfl
  | cons first _ ih => simp [reads first, ih]

theorem HoldsList.optional {α β : Type} {writes : α → Json → Prop} {read : Json → Option β}
    {seen : α → β} {values : List α} (holds : HoldsList writes members name values)
    (reads : ∀ ⦃value json⦄, writes value json → read json = some (seen value)) :
    ∃ content, Holds members name content ∧
      optional [] (listOf? read) content = some (values.map seen) := by
  rcases holds with ⟨items, held, written⟩ | ⟨rfl, absent⟩
  · exact ⟨_, held, mapM_written reads written⟩
  · exact ⟨none, absent, rfl⟩

def seenAttribute (field : String × Option String) : String × String :=
  (field.1, field.2.getD "")

def NodeEvent.seen (event : NodeEvent) : FoundEvent :=
  ⟨event.type, event.attributes.map seenAttribute⟩

def NodeTx.seen (tx : NodeTx) : FoundTx := ⟨tx.hash, tx.height, tx.events.map NodeEvent.seen⟩

theorem WritesNumber.read {number : Nat} (writes : WritesNumber number json) :
    height? json = some number := by
  obtain ⟨text, rfl, reads⟩ := writes
  exact reads

theorem WritesAttribute.read {field : String × Option String}
    (writes : WritesAttribute field json) : attribute? json = some (seenAttribute field) := by
  obtain ⟨key, value⟩ := field
  obtain ⟨members, rfl, named, held | ⟨none, null⟩⟩ := writes
  · rw [attribute?, distinctFields?_holds (.cons named (.cons held .nil))]
    cases value <;> rfl
  · rw [attribute?, distinctFields?_holds (.cons named (.cons null .nil))]
    cases none
    rfl

theorem WritesEvent.read {event : NodeEvent} (writes : WritesEvent event json) :
    FoundEvent.ofJson? json = some event.seen := by
  obtain ⟨members, rfl, typed, listed⟩ := writes
  obtain ⟨content, held, reads⟩ := listed.optional fun _ _ => WritesAttribute.read
  rw [FoundEvent.ofJson?, distinctFields?_holds (.cons typed (.cons held .nil))]
  simp [Json.string?, reads, NodeEvent.seen]

theorem WritesTx.read {tx : NodeTx} (writes : WritesTx tx json) :
    FoundTx.ofJson? json = some tx.seen := by
  obtain ⟨members, height, result, rfl, hashed, placed, number, carried, listed⟩ := writes
  obtain ⟨content, held, reads⟩ := listed.optional fun _ _ => WritesEvent.read
  have events : foundEvents? (.object result) = some (tx.events.map NodeEvent.seen) := by
    rw [foundEvents?, distinctFields?_holds (.cons held .nil)]
    exact reads
  rw [FoundTx.ofJson?, distinctFields?_holds (.cons hashed (.cons placed (.cons carried .nil)))]
  simp [Json.string?, number.read, events, NodeTx.seen]

theorem WritesPage.read {total : Nat} {transactions : List NodeTx} {answer : Rpc.Answer}
    (writes : WritesPage total transactions answer) :
    Search.pageOf answer = .ok ⟨transactions.map NodeTx.seen, total⟩ := by
  obtain ⟨members, items, count, rfl, held, written, counted, number⟩ := writes
  have listed : items.mapM FoundTx.ofJson? = some (transactions.map NodeTx.seen) :=
    mapM_written (fun _ _ writes => writes.read) written
  have page : Page.ofJson? (.object members) =
      some ⟨transactions.map NodeTx.seen, total⟩ := by
    rw [Page.ofJson?, distinctFields?_holds (.cons held (.cons counted .nil))]
    simp [listOf?, Json.array?, listed, number.read]
  simp only [Search.pageOf, Rpc.Answer.payload, bind, Except.bind, page]

end Reading

/-- What a batch has of a transaction: its events of the asked types, in their order, each with
the transaction's hash and height. -/
def NodeTx.eventsOf (types : List String) (tx : NodeTx) : List Event :=
  (tx.events.filter fun event => types.contains event.type).map fun event =>
    ⟨event.type, tx.hash, tx.height,
      event.attributes.map fun field => (field.1, field.2.getD "")⟩

theorem eventsOf_seen (types : List String) (tx : NodeTx) :
    tx.seen.eventsOf types = tx.eventsOf types := by
  simp only [FoundTx.eventsOf, NodeTx.seen, List.filter_map, List.map_map]
  rfl

/-- Consecutive pages that are not empty, or one empty page if there is nothing to hand out. -/
structure Cut (transactions : List NodeTx) (pages : List (List NodeTx)) : Prop where
  whole : pages.flatten = transactions
  shape : pages = [[]] ∨ pages ≠ [] ∧ ∀ page ∈ pages, page ≠ []

namespace Search

def pageCall (height page : Nat) : Rpc.Call :=
  ⟨"tx_search", [("query", .string ("tx.height=" ++ toString height)),
    ("prove", .boolean false), ("page", .string (toString page)),
    ("per_page", .string "100"), ("order_by", .string "asc")]⟩

theorem call_eq (search : Search) : search.call = pageCall search.height search.page := rfl

theorem next_page {search : Search} {answer : Rpc.Answer} {page : Page}
    (reads : pageOf answer = .ok page) : search.next answer = search.take page := by
  rw [next, reads]

/-- The pages that are left bring what is missing to the announced total, and the search is over
with the last of them. -/
theorem run_pages {search : Search} {total : Nat} {pages : List (List NodeTx)}
    {answers : List Rpc.Answer} (written : List.Forall₂ (WritesPage total) pages answers)
    (left : pages ≠ []) (filled : ∀ page ∈ pages, page ≠ [])
    (missing : search.seen + pages.flatten.length = total) (rest : List Rpc.Answer) :
    search.run (answers ++ rest) = .done (.ok ⟨search.height,
        search.events ++ pages.flatten.flatMap (NodeTx.eventsOf search.types)⟩) ∧
      search.calls (answers ++ rest) =
        (List.range' search.page pages.length).map (pageCall search.height) := by
  induction written generalizing search with
  | nil => exact absurd rfl left
  | @cons page answer pages answers first written ih =>
      have events : (page.map NodeTx.seen).flatMap (FoundTx.eventsOf search.types) =
          page.flatMap (NodeTx.eventsOf search.types) := by
        simp only [List.flatMap_map, eventsOf_seen]
      have nonempty : page ≠ [] := filled page List.mem_cons_self
      have next : search.next answer = search.take ⟨page.map NodeTx.seen, total⟩ :=
        next_page first.read
      simp only [take, List.length_map, List.isEmpty_map, events,
        List.isEmpty_eq_false_iff.mpr nonempty, Bool.false_or] at next
      rw [List.flatten_cons, List.length_append] at missing
      cases written with
      | nil =>
          have reached : total ≤ search.seen + page.length := by simp at missing; omega
          rw [if_pos (by simpa using reached)] at next
          constructor
          · simp [run, next]
          · simp [calls, next, call_eq]
      | @cons second other pages others following written =>
          -- The next page has something, so the total is not reached yet.
          have more : second ≠ [] := filled second (by simp)
          have short : ¬ total ≤ search.seen + page.length := by
            have some := List.length_pos_iff.mpr more
            simp only [List.flatten_cons, List.length_append] at missing
            omega
          rw [if_neg (by simpa using short)] at next
          let onward : Search := { search with
            page := search.page + 1
            seen := search.seen + page.length
            events := search.events ++ page.flatMap (NodeTx.eventsOf search.types) }
          have lacking : onward.seen + (second :: pages).flatten.length = total := by
            simpa [onward, Nat.add_assoc] using missing
          obtain ⟨ran, called⟩ :=
            ih (by simp) (fun page member => filled page (List.mem_cons_of_mem _ member)) lacking
          constructor
          · rw [List.cons_append, run, next]
            simpa [onward] using ran
          · rw [List.cons_append, calls, next]
            simpa [onward, List.range'_succ, call_eq] using called

/-- However the node cuts the transactions of a height into pages, the search asks for page one,
page two and so on up to the last of them, asks for no page behind it, and comes to its end with
the events of the asked types of all transactions, in the order of the transactions and of their
events. -/
theorem batch_does_not_depend_on_paging (types : List String) (height : Nat)
    {transactions : List NodeTx} {pages : List (List NodeTx)} {answers : List Rpc.Answer}
    (cut : Cut transactions pages)
    (written : List.Forall₂ (WritesPage transactions.length) pages answers)
    (rest : List Rpc.Answer) :
    (start types height).run (answers ++ rest) =
        .done (.ok ⟨height, transactions.flatMap (NodeTx.eventsOf types)⟩) ∧
      (start types height).calls (answers ++ rest) =
        (List.range' 1 pages.length).map (pageCall height) := by
  rcases cut.shape with rfl | ⟨left, filled⟩
  · obtain rfl : transactions = [] := cut.whole.symm
    obtain ⟨answer, none, first, last, rfl⟩ := List.forall₂_cons_left_iff.mp written
    cases last
    have next : (start types height).next answer = .done (.ok ⟨height, []⟩) :=
      next_page first.read
    constructor
    · rw [List.cons_append, run, next]
      rfl
    · rw [List.cons_append, calls, next]
      rfl
  · have missing : (start types height).seen + pages.flatten.length = transactions.length := by
      rw [cut.whole]
      exact Nat.zero_add _
    obtain ⟨ran, called⟩ := run_pages written left filled missing rest
    rw [cut.whole] at ran
    exact ⟨ran, called⟩

/-! Two transactions. The first has an event that nobody asks for and one whose attributes are
without a value, the one by a null and the other by having none. -/

def memoTx : NodeTx := ⟨"A", 5, [⟨"message", []⟩, ⟨"wasm", [("memo", none), ("note", none)]⟩]⟩

def mintTx : NodeTx := ⟨"B", 5, [⟨"wasm", [("action", some "mint")]⟩]⟩

def memoJson : Json :=
  .object [("height", .string "5"), ("hash", .string "A"), ("tx_result", .object
    [("code", .integer 0), ("events", .array
      [.object [("type", .string "message")],
        .object [("type", .string "wasm"), ("attributes", .array
          [.object [("key", .string "memo"), ("value", .null)],
            .object [("index", .boolean true), ("key", .string "note")]])]])])]

def mintJson : Json :=
  .object [("hash", .string "B"), ("height", .string "5"), ("tx_result", .object
    [("events", .array [.object [("type", .string "wasm"), ("attributes", .array
      [.object [("key", .string "action"), ("value", .string "mint")]])]])])]

def ofTwo (transaction : Json) : Rpc.Answer :=
  .result (.object [("txs", .array [transaction]), ("total_count", .string "2")])

theorem writes_memoTx : WritesTx memoTx memoJson := by
  refine ⟨_, _, _, rfl, rfl, rfl, ⟨_, rfl, by decide⟩, rfl, .inl ⟨_, rfl, ?_⟩⟩
  refine .cons ⟨_, rfl, rfl, .inr ⟨rfl, rfl⟩⟩ (.cons ⟨_, rfl, rfl, .inl ⟨_, rfl, ?_⟩⟩ .nil)
  exact .cons ⟨_, rfl, rfl, .inr ⟨rfl, rfl⟩⟩ (.cons ⟨_, rfl, rfl, .inl rfl⟩ .nil)

theorem writes_mintTx : WritesTx mintTx mintJson := by
  refine ⟨_, _, _, rfl, rfl, rfl, ⟨_, rfl, by decide⟩, rfl, .inl ⟨_, rfl, ?_⟩⟩
  exact .cons ⟨_, rfl, rfl, .inl ⟨_, rfl, .cons ⟨_, rfl, rfl, .inl rfl⟩ .nil⟩⟩ .nil

theorem two_pages_make_one_batch :
    (start ["wasm"] 5).run [ofTwo memoJson, ofTwo mintJson, .unavailable] =
        .done (.ok ⟨5, [⟨"wasm", "A", 5, [("memo", ""), ("note", "")]⟩,
          ⟨"wasm", "B", 5, [("action", "mint")]⟩]⟩) ∧
      (start ["wasm"] 5).calls [ofTwo memoJson, ofTwo mintJson, .unavailable] =
        [pageCall 5 1, pageCall 5 2] := by
  have cut : Cut [memoTx, mintTx] [[memoTx], [mintTx]] := ⟨rfl, .inr (by simp)⟩
  have first : WritesPage 2 [memoTx] (ofTwo memoJson) :=
    ⟨_, _, _, rfl, rfl, .cons writes_memoTx .nil, rfl, _, rfl, by decide⟩
  have second : WritesPage 2 [mintTx] (ofTwo mintJson) :=
    ⟨_, _, _, rfl, rfl, .cons writes_mintTx .nil, rfl, _, rfl, by decide⟩
  exact batch_does_not_depend_on_paging ["wasm"] 5 cut (.cons first (.cons second .nil))
    [.unavailable]

end Search

end Settlement.Chain
