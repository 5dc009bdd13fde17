import Settlement.Proofs.Chain.FeedOutcomes
import Settlement.Proofs.Chain.SearchPages

/-!
How a search ends, whatever the node answers. The pages before the last one are not empty and
each announces more than has come so far. The last page has reached the total that it announces,
or it is empty, and then the search accepts what it has, whatever that total is.
-/

namespace Settlement.Chain

def Page.eventsOf (types : List String) (page : Page) : List Event :=
  page.transactions.flatMap (FoundTx.eventsOf types)

def delivered (pages : List Page) : Nat := (pages.flatMap Page.transactions).length

namespace Search

def Unfinished : Nat → List Page → Prop
  | _, [] => True
  | seen, page :: rest => page.transactions ≠ [] ∧
      seen + page.transactions.length < page.total ∧
      Unfinished (seen + page.transactions.length) rest

def Reads (answers : List Rpc.Answer) (pages : List Page) : Prop :=
  List.Forall₂ (fun answer page => pageOf answer = .ok page) answers pages

/-- The answers up to the first that ends the search are pages, the last of which brings the
transactions up to its total or has none, and the batch has what is on them. -/
def Accepts (types : List String) (height : Nat) (answers : List Rpc.Answer) (batch : Batch) :
    Prop :=
  ∃ heard last rest pages page, answers = heard ++ last :: rest ∧
    Reads heard pages ∧ Unfinished 0 pages ∧ pageOf last = .ok page ∧
    (page.total ≤ delivered (pages ++ [page]) ∨ page.transactions = []) ∧
    batch = ⟨height, (pages ++ [page]).flatMap (Page.eventsOf types)⟩

/-- One of the answers is no page, and none of the pages before it ends the search. -/
def Refuses (answers : List Rpc.Answer) (failure : Failure) : Prop :=
  ∃ heard last rest pages, answers = heard ++ last :: rest ∧
    Reads heard pages ∧ Unfinished 0 pages ∧ pageOf last = .error failure

def after (search : Search) (pages : List Page) : Search where
  height := search.height
  types := search.types
  page := search.page + pages.length
  seen := search.seen + delivered pages
  events := search.events ++ pages.flatMap (Page.eventsOf search.types)

section Steps

variable {search : Search} {answer : Rpc.Answer} {answers : List Rpc.Answer} {page : Page}
  {pages : List Page} {batch : Batch} {failure : Failure}

theorem after_nil (search : Search) : search.after [] = search := by
  simp [after, delivered]

theorem after_after (search : Search) (page : Page) (pages : List Page) :
    (search.after [page]).after pages = search.after (page :: pages) := by
  simp [after, delivered, Nat.add_assoc, Nat.add_comm 1]

theorem take_last (enough : page.total ≤ search.seen + page.transactions.length ∨
    page.transactions = []) :
    search.take page = .done (.ok ⟨search.height, (search.after [page]).events⟩) := by
  have ends : (page.transactions.isEmpty ||
      page.total ≤ search.seen + page.transactions.length) = true := by
    simpa [or_comm] using enough
  simp only [take, if_pos ends, after, List.flatMap_cons, List.flatMap_nil, List.append_nil]
  rfl

theorem take_more (filled : page.transactions ≠ [])
    (short : search.seen + page.transactions.length < page.total) :
    search.take page = .more (search.after [page]) := by
  have goesOn : ¬ (page.transactions.isEmpty ||
      page.total ≤ search.seen + page.transactions.length) = true := by
    simpa using ⟨filled, short⟩
  simp only [take, if_neg goesOn, after, delivered, List.flatMap_cons, List.flatMap_nil,
    List.append_nil]
  rfl

theorem run_unfinished (reads : Reads answers pages) (unfinished : Unfinished search.seen pages)
    (rest : List Rpc.Answer) :
    search.run (answers ++ rest) = (search.after pages).run rest := by
  induction reads generalizing search with
  | nil => rw [after_nil, List.nil_append]
  | @cons answer page answers pages first _ ih =>
      obtain ⟨filled, short, others⟩ := unfinished
      have seen : (search.after [page]).seen = search.seen + page.transactions.length := by
        simp [after, delivered]
      rw [List.cons_append, run, next_page first, take_more filled short]
      exact (ih (seen ▸ others)).trans (by rw [after_after])

/-- What comes of a search is told by the pages up to the first answer that ends it. -/
theorem run_done {result : Except Failure Batch} (ran : search.run answers = .done result) :
    ∃ heard last rest pages, answers = heard ++ last :: rest ∧ Reads heard pages ∧
      Unfinished search.seen pages ∧ (search.after pages).next last = .done result := by
  induction answers generalizing search with
  | nil => cases ran
  | cons answer answers ih =>
      cases told : pageOf answer with
      | error failure =>
          have next : search.next answer = .done (.error failure) := by rw [next, told]
          rw [run, next] at ran
          cases ran
          exact ⟨[], answer, answers, [], rfl, .nil, trivial, by rw [after_nil, next]⟩
      | ok page =>
          have next : search.next answer = search.take page := next_page told
          -- The page ends the search, or what is told of the rest is told of it after this page.
          by_cases enough : page.total ≤ search.seen + page.transactions.length ∨
              page.transactions = []
          · rw [run, next, take_last enough] at ran
            cases ran
            exact ⟨[], answer, answers, [], rfl, .nil, trivial,
              by rw [after_nil, next, take_last enough]⟩
          · obtain ⟨short, filled⟩ := not_or.mp enough
            have short := Nat.lt_of_not_le short
            rw [run, next, take_more filled short] at ran
            obtain ⟨heard, last, rest, pages, rfl, reads, unfinished, ends⟩ := ih ran
            rw [after_after] at ends
            refine ⟨answer :: heard, last, rest, page :: pages, rfl, .cons told reads, ?_, ends⟩
            exact ⟨filled, short, by simpa [after, delivered] using unfinished⟩

theorem run_append (search : Search) (first rest : List Rpc.Answer) :
    search.run (first ++ rest) = match search.run first with
      | .more next => next.run rest
      | .done result => .done result := by
  induction first generalizing search with
  | nil => rfl
  | cons answer first ih =>
      simp only [List.cons_append, run]
      cases search.next answer with
      | more next => exact ih next
      | done result => rfl

end Steps

section Outcomes

variable {types : List String} {height : Nat} {answers : List Rpc.Answer} {batch : Batch}
  {failure : Failure}

theorem next_done_ok {search : Search} {answer : Rpc.Answer} :
    search.next answer = .done (.ok batch) ↔ ∃ page, pageOf answer = .ok page ∧
      (page.total ≤ search.seen + page.transactions.length ∨ page.transactions = []) ∧
      batch = ⟨search.height, (search.after [page]).events⟩ := by
  cases told : pageOf answer with
  | error failure => simp [next, told]
  | ok page =>
      rw [next_page told]
      by_cases enough : page.total ≤ search.seen + page.transactions.length ∨
          page.transactions = []
      · rw [take_last enough]
        simp [enough, eq_comm]
      · obtain ⟨short, filled⟩ := not_or.mp enough
        rw [take_more filled (Nat.lt_of_not_le short)]
        simp [enough]

theorem next_done_error {search : Search} {answer : Rpc.Answer} :
    search.next answer = .done (.error failure) ↔ pageOf answer = .error failure := by
  cases told : pageOf answer with
  | error other => simp [next, told]
  | ok page =>
      rw [next_page told, take]
      split <;> simp

theorem run_ok_iff : (start types height).run answers = .done (.ok batch) ↔
    Accepts types height answers batch := by
  have whole : ∀ pages page, ((start types height).after pages).seen + page.transactions.length =
      delivered (pages ++ [page]) := by
    simp [after, delivered, start]
  have events : ∀ pages page, (((start types height).after pages).after [page]).events =
      (pages ++ [page]).flatMap (Page.eventsOf types) := by
    simp [after, start]
  constructor
  · intro ran
    obtain ⟨heard, last, rest, pages, same, reads, unfinished, ends⟩ := run_done ran
    obtain ⟨page, told, enough, rfl⟩ := next_done_ok.mp ends
    rw [whole] at enough
    exact ⟨heard, last, rest, pages, page, same, reads, unfinished, told, enough,
      by rw [events]; rfl⟩
  · rintro ⟨heard, last, rest, pages, page, rfl, reads, unfinished, told, enough, rfl⟩
    have ends : ((start types height).after pages).next last = .done (.ok _) :=
      next_done_ok.mpr ⟨page, told, by rwa [whole], rfl⟩
    rw [run_unfinished reads unfinished, run, ends, events]
    rfl

theorem run_error_iff : (start types height).run answers = .done (.error failure) ↔
    Refuses answers failure := by
  constructor
  · intro ran
    obtain ⟨heard, last, rest, pages, same, reads, unfinished, ends⟩ := run_done ran
    exact ⟨heard, last, rest, pages, same, reads, unfinished, next_done_error.mp ends⟩
  · rintro ⟨heard, last, rest, pages, rfl, reads, unfinished, told⟩
    rw [run_unfinished reads unfinished, run, next_done_error.mpr told]

end Outcomes

section Conversations

variable {first : Search} {conversation : Conversation} {outcome : Next}

theorem next_more {search next : Search} {answer : Rpc.Answer}
    (told : search.next answer = .more next) :
    next.height = search.height ∧ next.page = search.page + 1 := by
  unfold Search.next at told
  split at told
  · simp only [take] at told
    split at told <;> cases told
    exact ⟨rfl, rfl⟩
  · cases told

theorem run_more {search later : Search} {answers : List Rpc.Answer}
    (ran : search.run answers = .more later) :
    later.call = pageCall search.height (search.page + answers.length) := by
  induction answers generalizing search with
  | nil =>
      cases ran
      exact call_eq later
  | cons answer answers ih =>
      rw [Search.run] at ran
      split at ran
      · rename_i next told
        obtain ⟨height, page⟩ := next_more told
        rw [ih ran, height, page, List.length_cons, Nat.add_assoc, Nat.add_comm 1]
      · cases ran

theorem Leads.run (leads : first.Leads conversation outcome) :
    first.run (conversation.map Prod.snd) = outcome := by
  induction leads with
  | start => rfl
  | step answer _ ih =>
      rw [List.map_append, run_append, ih]
      simp only [List.map_cons, List.map_nil, Search.run]
      split <;> simp_all

theorem Leads.asks (leads : first.Leads conversation outcome) :
    conversation.map Prod.fst =
        (List.range' first.page conversation.length).map (pageCall first.height) ∧
      ∀ search, outcome = .more search →
        search.height = first.height ∧ search.page = first.page + conversation.length := by
  induction leads with
  | start =>
      refine ⟨rfl, ?_⟩
      rintro search ⟨⟩
      exact ⟨rfl, rfl⟩
  | @step pages search answer _ ih =>
      obtain ⟨asked, last⟩ := ih
      obtain ⟨height, page⟩ := last search rfl
      constructor
      · simp [asked, call_eq, height, page, List.range'_concat]
      · intro next told
        obtain ⟨sameHeight, nextPage⟩ := next_more told
        refine ⟨sameHeight.trans height, ?_⟩
        rw [nextPage, page, List.length_append]
        rfl

end Conversations

end Search

end Settlement.Chain
