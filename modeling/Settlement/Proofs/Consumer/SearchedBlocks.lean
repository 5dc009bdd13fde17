import Settlement.Proofs.Chain.SearchOutcomes
import Settlement.Proofs.Consumer.Coverage

/-!
What the node has said of the blocks that the cursor has passed. A batch is begun only if a search
of its height has accepted it, so each passed height has a conversation with the node that ended
with the announced total reached or with an empty page.
-/

namespace Settlement.Coverage

open Activity
open Consumer
open Marked (ofActivity pass)

abbrev Speech := Chain.Rpc.Call → Chain.Rpc.Answer → Prop

/-- The shared tables, with streams that hear nothing else from the node. -/
def toldAnswers (stream : Uuid) (speech : Speech) : Answering Store
  | .openStream types height, before, items, after =>
      after.cursorCell stream = before.cursorCell stream ∧
        ∃ conversation feed, Chain.Feed.Hears types height conversation feed ∧
          (∀ said ∈ conversation, speech said.1 said.2) ∧ items = feed.received
  | request, before, reply, after => sharedAnswers stream request before reply after

theorem shared_of_told {stream : Uuid} {speech : Speech} {request : Request} {before after : Store}
    {reply : request.Reply} (answered : toldAnswers stream speech request before reply after) :
    sharedAnswers stream request before reply after := by
  cases request with
  | openStream types height =>
      obtain ⟨same, conversation, feed, hears, _, received⟩ := answered
      exact ⟨same, feed, hears.reachable, received⟩
  | _ => exact answered

/-- The node has answered a search of this height, page by page, until the search accepted a
batch. -/
def Searched (speech : Speech) (height : Nat) : Prop :=
  ∃ (conversation : Chain.Conversation) (batch : Chain.Batch),
    (∀ said ∈ conversation, speech said.1 said.2) ∧
    conversation.map Prod.fst =
      (List.range' 1 conversation.length).map (Chain.Search.pageCall height) ∧
    Chain.Search.Accepts Chain.Event.streamedTypes height (conversation.map Prod.snd) batch

theorem Searched.of_found {speech : Speech} {conversation : Chain.Conversation}
    {batch : Chain.Batch} (said : ∀ said ∈ conversation, speech said.1 said.2)
    (found : Chain.Feed.Found Chain.Event.streamedTypes conversation batch) :
    Searched speech batch.height := by
  obtain ⟨before, pages, rest, latest, rfl, _, _, leads⟩ := found
  refine ⟨pages, batch, ?_, leads.asks.1, Chain.Search.run_ok_iff.mp leads.run⟩
  intro part member
  exact said part (by simp [member])

def toldLogged (stream : Uuid) (speech : Speech) : Answering Traced :=
  fun request before reply after =>
    (toldAnswers stream speech).recorded request before.unmarked reply after.unmarked ∧
      after.log = relog stream before.store after.store before.log

def Evident (speech : Speech) (state : Traced) : Prop :=
  ∀ height, .began height ∈ state.log → Searched speech height

section Evidence

variable {stream : Uuid} {speech : Speech} {settings : Settings} {state before after : Traced}

theorem Evident.answer {request : Request} {reply : request.Reply}
    (evident : Evident speech before)
    (answered : toldLogged stream speech request before reply after) : Evident speech after := by
  intro height began
  apply evident height
  rw [answered.2] at began
  unfold relog at began
  split at began
  · exact began
  · simpa using began

theorem Evident.noted {milestone : Milestone} (evident : Evident speech state)
    (searched : ∀ height, milestone = .began height → Searched speech height) :
    Evident speech (noted milestone state) := by
  intro height began
  rcases List.mem_cons.mp began with same | earlier
  · exact searched height same.symm
  · exact evident height earlier

def KeepsEvident {ε α : Type} (stream : Uuid) (speech : Speech) (program : Marked Milestone ε α)
    (state : Traced) : Prop :=
  program.Keeps (toldLogged stream speech) noted (fun _ after => Evident speech after)
    (fun _ after => Evident speech after) state

theorem keeps_evident {ε α : Type} (activity : Activity ε α) (evident : Evident speech state) :
    KeepsEvident stream speech (ofActivity activity) state := by
  induction activity generalizing state with
  | done result => exact evident
  | ask request next ih =>
      intro reply after answered
      have kept := evident.answer answered
      exact ⟨kept, ih reply kept⟩

theorem KeepsEvident.bind {ε α β : Type} {first : Marked Milestone ε α}
    {next : α → Marked Milestone ε β} (keeps : KeepsEvident stream speech first state)
    (rest : ∀ value after, Evident speech after → KeepsEvident stream speech (next value) after) :
    KeepsEvident stream speech (first >>= next) state :=
  Marked.Keeps.bind keeps rest fun _ _ evident => evident

theorem keeps_pass {milestone : Milestone} (evident : Evident speech state)
    (searched : ∀ height, milestone = .began height → Searched speech height) :
    KeepsEvident stream speech (pass milestone : Marked Milestone Failure Unit) state :=
  ⟨evident.noted searched, evident.noted searched⟩

theorem evident_markedItems {items : List (Except Chain.Failure Chain.Batch)}
    (evident : Evident speech state)
    (searched : ∀ batch, .ok batch ∈ items → Searched speech batch.height) :
    KeepsEvident stream speech (markedItems settings items) state := by
  induction items generalizing state with
  | nil => exact evident
  | cons item rest ih =>
      refine KeepsEvident.bind ?_ fun _ after kept =>
        ih kept fun batch member => searched batch (List.mem_cons_of_mem _ member)
      cases item with
      | error failure => exact keeps_evident _ evident
      | ok batch =>
          have here := searched batch List.mem_cons_self
          refine (keeps_pass evident ?_).bind fun _ _ evident =>
            (keeps_evident _ evident).bind fun _ _ evident =>
              (keeps_pass evident (by simp)).bind fun _ _ evident =>
                (keeps_evident _ evident).bind fun _ _ evident =>
                  (keeps_pass evident (by simp)).bind fun _ _ evident =>
                    keeps_evident _ evident
          rintro height ⟨⟩
          exact here

theorem evident_markedConsume (evident : Evident speech state) :
    KeepsEvident stream speech (markedConsume settings) state := by
  refine (keeps_evident _ evident).bind fun cursor middle evident => ?_
  cases Height.next? (Height.shown cursor.height) with
  | none => exact keeps_evident _ evident
  | some height =>
      refine (keeps_pass evident (by simp)).bind fun _ middle evident => ?_
      intro items after answered
      have kept := evident.answer answered
      refine ⟨kept, evident_markedItems kept ?_⟩
      -- What the feed hands over it has found in its conversation with the node.
      obtain ⟨_, conversation, feed, hears, said, rfl⟩ := answered.1.1
      intro batch received
      exact .of_found said (hears.accounted.2.batches batch (List.mem_append_left _ received))

theorem evident_markedSupervise (evident : Evident speech state) (rounds : Nat) :
    KeepsEvident stream speech (markedSupervise settings rounds) state := by
  induction rounds generalizing state with
  | zero => exact evident
  | succ rounds ih =>
      apply Marked.Keeps.attempt (evident_markedConsume evident)
      intro result middle evident
      exact (keeps_pass evident (by simp)).bind fun _ _ evident => ih evident

end Evidence

theorem passed_heights_are_searched {stream : Uuid} {epochs : Nat → Prop} {speech : Speech}
    {start store : Store} {program rest : Activity Failure Unit} {cell : Store.Cell}
    (unstarted : start.cursorCell stream = none) (supervises : Supervises stream epochs program)
    (run : Activity.Run (toldAnswers stream speech) (Supervises stream epochs) program start rest
      store) (stored : store.cursorCell stream = some cell) :
    ∃ epoch cursor : Nat, epochs epoch ∧ cell = .number cursor ∧ epoch ≤ cursor ∧
      ∀ height, epoch < height → height ≤ cursor → Searched speech height := by
  have lifts : ∀ {request} {state : Traced} {reply after},
      toldAnswers stream speech request state.store reply after →
      ∃ later, toldLogged stream speech request state reply later ∧ later.store = after := by
    intro request state reply after answered
    exact ⟨⟨after, _, relog stream state.store after state.log⟩, ⟨⟨answered, rfl⟩, rfl⟩, rfl⟩
  have begun : Activity.Run (toldAnswers stream speech) (Supervises stream epochs) program
    (Traced.store ⟨start, [], []⟩) rest store := run
  have quiet : ∀ event state, (noted event state).store = state.store := fun _ _ => rfl
  obtain ⟨left, state, marked, _, rfl⟩ :=
    Marked.Run.lift quiet lifts (fun other => (supervises_iff other).mp) supervises begun
  -- Two invariants of the marked run: what was begun was searched, and what was passed was begun.
  have evident : Evident speech state := by
    have closed : ∀ before after : Traced, Evident speech after → Evident speech after :=
      fun _ _ => id
    have initial : Evident speech ⟨start, [], []⟩ := by simp [Evident]
    have attempts : ∀ program, MarkedSupervises stream epochs program → ∀ state,
        Evident speech state → KeepsEvident stream speech program state := by
      rintro _ ⟨settings, rounds, _, _, rfl⟩ state evident
      exact evident_markedSupervise evident rounds
    exact (marked.keeps closed initial attempts).1
  have consistent : Consistent stream epochs state := by
    have initial : Consistent stream epochs ⟨start, [], []⟩ := ⟨trivial, unstarted.symm⟩
    exact consistent_of_run initial <| marked.mono fun answered =>
      ⟨⟨shared_of_told answered.1.1, answered.1.2⟩, answered.2⟩
  obtain ⟨epoch, cursor, chosen, _, number, least, _, complete⟩ :=
    consistent.sound.covered (consistent.cursor.trans stored)
  refine ⟨epoch, cursor, chosen, number, least, fun height above below => evident height ?_⟩
  obtain ⟨earlier, within, _, _, began⟩ :=
    consistent.sound.justified_mem (complete height above below).1
  exact within _ began

/-- A search accepts what it has with the first page that brings the transactions up to the total
announced there, and with the first empty page whatever is announced there; it fails with the first
answer that is no page, and otherwise asks on. The cursor passes a height only if a search of it
has been answered up to such a page. -/
theorem batch_is_whole_or_ends_in_an_empty_page {stream : Uuid} {epochs : Nat → Prop}
    {speech : Speech} {start store : Store} {program rest : Activity Failure Unit}
    (unstarted : start.cursorCell stream = none) (supervises : Supervises stream epochs program)
    (run : Activity.Run (toldAnswers stream speech) (Supervises stream epochs) program start rest
      store) :
    (∀ types height answers,
      (∀ batch, (Chain.Search.start types height).run answers = .done (.ok batch) ↔
        Chain.Search.Accepts types height answers batch) ∧
      (∀ failure, (Chain.Search.start types height).run answers = .done (.error failure) ↔
        Chain.Search.Refuses answers failure) ∧
      ∀ search, (Chain.Search.start types height).run answers = .more search →
        search.call = Chain.Search.pageCall height (1 + answers.length)) ∧
    ∀ cell, store.cursorCell stream = some cell → ∃ epoch cursor : Nat, epochs epoch ∧
      cell = .number cursor ∧ epoch ≤ cursor ∧
      ∀ height, epoch < height → height ≤ cursor → Searched speech height := by
  constructor
  · intro types height answers
    exact ⟨fun _ => Chain.Search.run_ok_iff, fun _ => Chain.Search.run_error_iff,
      fun _ => Chain.Search.run_more⟩
  · intro cell stored
    exact passed_heights_are_searched unstarted supervises run stored

/-! A node with one block, of which it announces three transactions and hands out none. -/

def threeAnnounced : Chain.Rpc.Answer := .result (.object
  [("txs", .array []), ("total_count", .string "3")])

def withholding : Speech := fun call answer =>
  call = Chain.Feed.statusCall ∧ answer = statusOne ∨
    call = Chain.Search.pageCall 1 1 ∧ answer = threeAnnounced

theorem withheld_block_is_consumed : ∃ rest store,
    Activity.Run (toldAnswers zeroStamp.id withholding) (Supervises zeroStamp.id (· = 0))
      (supervise fromGenesis 1) .empty rest store ∧
    store.cursorCell zeroStamp.id = some (.number 1) := by
  have asked : Chain.Feed.Hears Chain.Event.streamedTypes 1 [] _ := .start
  have told := asked.step (.answer statusOne) rfl
  have found := told.step (.answer threeAnnounced) rfl
  have handed := found.step .deliver rfl
  have received := handed.step .receive rfl
  have heard : ∀ said ∈ [(Chain.Feed.statusCall, statusOne),
      (Chain.Search.pageCall 1 1, threeAnnounced)], withholding said.1 said.2 := by
    simp [withholding]
  have begun : Activity.Run (toldAnswers zeroStamp.id withholding)
    (Supervises zeroStamp.id (· = 0)) (supervise fromGenesis 1) .empty
    (supervise fromGenesis 1) .empty := .begin
  have absent := begun.answer ⟨_, rfl, Or.inl rfl⟩
  have stamped := absent.answer (show toldAnswers _ _ .stamp _ zeroStamp _ from rfl)
  have created := stamped.answer ⟨_, rfl, Or.inl rfl⟩
  have opened := created.answer ⟨_, rfl, Or.inl rfl⟩
  have delivered := opened.answer ⟨rfl, _, _, received, heard, rfl⟩
  have restamped := delivered.answer (show toldAnswers _ _ .stamp _ zeroStamp _ from rfl)
  have moved := restamped.answer ⟨_, rfl, Or.inl rfl⟩
  exact ⟨_, _, moved, rfl⟩

/-- The search succeeds with fewer transactions than the last answer announces, and the cursor
passes the block. -/
theorem announced_transactions_are_passed_over :
    Chain.Search.pageOf threeAnnounced = .ok ⟨[], 3⟩ ∧
    (Chain.Search.start Chain.Event.streamedTypes 1).run [threeAnnounced] =
      .done (.ok ⟨1, []⟩) ∧
    ∃ rest store, Activity.Run (toldAnswers zeroStamp.id withholding)
        (Supervises zeroStamp.id (· = 0)) (supervise fromGenesis 1) .empty rest store ∧
      store.cursorCell zeroStamp.id = some (.number 1) :=
  ⟨rfl, rfl, withheld_block_is_consumed⟩

/-- The height that was passed has been searched to an end, and that end is the empty page. -/
theorem withheld_block_is_searched : Searched withholding 1 ∧
    Chain.Search.Accepts Chain.Event.streamedTypes 1 [threeAnnounced] ⟨1, []⟩ := by
  obtain ⟨rest, store, run, stored⟩ := withheld_block_is_consumed
  have supervises : Supervises zeroStamp.id (· = 0) (supervise fromGenesis 1) :=
    ⟨fromGenesis, 1, rfl, rfl, rfl⟩
  obtain ⟨outcomes, passed⟩ := batch_is_whole_or_ends_in_an_empty_page rfl supervises run
  obtain ⟨epoch, cursor, rfl, number, _, searched⟩ := passed _ stored
  obtain rfl : 1 = cursor := Store.Cell.natural_inj number
  exact ⟨searched 1 (by decide) (by decide),
    ((outcomes Chain.Event.streamedTypes 1 [threeAnnounced]).1 ⟨1, []⟩).mp rfl⟩

end Settlement.Coverage
