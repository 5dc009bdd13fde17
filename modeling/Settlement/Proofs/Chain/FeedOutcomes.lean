import Settlement.Proofs.Chain.FeedOrder

/-!
What stands behind the items that a receiver gets. The feed is followed together with its
conversation with the node: every call with its answer. A batch that is handed over is the
result of a whole search of its height, made after the node told a latest height not below
it. A failure is the outcome of the last thing said, and that is either a question for the
latest height or a search of the first height of which no batch was handed over.
-/

namespace Settlement.Chain

abbrev Conversation := List (Rpc.Call × Rpc.Answer)

inductive Search.Leads (first : Search) : Conversation → Search.Next → Prop where
  | start : Search.Leads first [] (.more first)
  | step {pages : Conversation} {search : Search} (answer : Rpc.Answer) :
      Search.Leads first pages (.more search) →
      Search.Leads first (pages ++ [(search.call, answer)]) (search.next answer)

namespace Feed

def heard (feed : Feed) : Action → Conversation
  | .answer answer => (feed.calls.take 1).map fun call => (call, answer)
  | _ => []

/-- The feeds that some actions lead to, each with its conversation up to there. -/
inductive Hears (types : List String) (height : Nat) : Conversation → Feed → Prop where
  | start : Hears types height [] (.start types height)
  | step {conversation : Conversation} {feed after : Feed} (action : Action) :
      Hears types height conversation feed → feed.step? action = some after →
      Hears types height (conversation ++ feed.heard action) after

def Told (conversation : Conversation) (latest : Nat) : Prop :=
  ∃ answer, (statusCall, answer) ∈ conversation ∧ latestHeight answer = .ok latest

/-- The batch is what a search of its height found, and the search began after the node had
told a latest height that is not below. -/
def Found (types : List String) (conversation : Conversation) (batch : Batch) : Prop :=
  ∃ before pages rest latest, conversation = before ++ pages ++ rest ∧ Told before latest ∧
    batch.height ≤ latest ∧
    (Search.start types batch.height).Leads pages (.done (.ok batch))

/-- The last thing said brought the failure: the answer to a question for the latest height,
or the last page of a search of this height. -/
def Broke (types : List String) (height : Nat) (conversation : Conversation)
    (failure : Failure) : Prop :=
  (∃ before answer, conversation = before ++ [(statusCall, answer)] ∧
    latestHeight answer = .error failure) ∨
  ∃ before pages, conversation = before ++ pages ∧
    (Search.start types height).Leads pages (.done (.error failure))

def Underway (types : List String) (height : Nat) (conversation : Conversation)
    (search : Search) : Prop :=
  ∃ before pages latest, conversation = before ++ pages ∧ Told before latest ∧
    height ≤ latest ∧ (Search.start types height).Leads pages (.more search)

variable {types : List String} {height : Nat} {feed : Feed}
  {conversation : Conversation} {latest : Nat}

theorem Hears.reachable (hears : Hears types height conversation feed) :
    Reachable types height feed := by
  induction hears with
  | start => exact .start
  | step action _ stepped ih => exact .step action ih stepped

theorem Told.later (told : Told conversation latest) (rest : Conversation) :
    Told (conversation ++ rest) latest := by
  obtain ⟨answer, said, tells⟩ := told
  exact ⟨answer, List.mem_append_left _ said, tells⟩

theorem Found.later {batch : Batch} (found : Found types conversation batch)
    (rest : Conversation) : Found types (conversation ++ rest) batch := by
  obtain ⟨before, pages, after, latest, rfl, told, reached, leads⟩ := found
  exact ⟨before, pages, after ++ rest, latest, by simp, told, reached, leads⟩

theorem Underway.page {search : Search} (underway : Underway types height conversation search)
    (same : search.height = height) (answer : Rpc.Answer) :
    match search.next answer with
    | .more next => Underway types height (conversation ++ [(search.call, answer)]) next
    | .done (.ok batch) => Found types (conversation ++ [(search.call, answer)]) batch
    | .done (.error failure) =>
        Broke types height (conversation ++ [(search.call, answer)]) failure := by
  obtain ⟨before, pages, latest, rfl, told, reached, leads⟩ := underway
  have onward := leads.step answer
  have whole : before ++ pages ++ [(search.call, answer)] =
      before ++ (pages ++ [(search.call, answer)]) := List.append_assoc ..
  have labelled := search.next_height answer
  rw [whole]
  split <;> rename_i outcome <;> rw [outcome] at onward labelled
  · exact ⟨before, _, latest, rfl, told, reached, onward⟩
  · rename_i batch
    have here : batch.height = height := labelled.trans same
    refine ⟨before, pages ++ [(search.call, answer)], [], latest, ?_, told, ?_, ?_⟩
    · rw [List.append_nil]
    · rwa [here]
    · rwa [here]
  · exact Or.inr ⟨before, _, rfl, onward⟩

def Backed (types : List String) (conversation : Conversation) (feed : Feed) : Prop :=
  match feed.position with
  | .polling => feed.calls.head? = some statusCall
  | .searching latest search => Told conversation latest ∧ search.height = feed.next ∧
      Underway types feed.next conversation search ∧ feed.calls.head? = some search.call
  | .sending latest batch => Told conversation latest ∧ Found types conversation batch
  | .failing failure => Broke types feed.next conversation failure
  | .sleeping | .ended => True

/-- So is everything that was handed over, and after a failure no more is said. -/
structure Accounted (types : List String) (height : Nat) (conversation : Conversation)
    (feed : Feed) : Prop where
  asks : feed.types = types
  backed : Backed types conversation feed
  batches : ∀ batch, .ok batch ∈ feed.received ++ feed.buffer → Found types conversation batch
  failure : ∀ items failure rest,
    feed.received ++ feed.buffer = items ++ .error failure :: rest →
    feed.isEnded = true ∧ Broke types (height + items.length) conversation failure

theorem accounted_start : Accounted types height [] (start types height) := by
  refine ⟨rfl, rfl, ?_, ?_⟩
  · intro batch handed
    cases handed
  · intro items failure rest handed
    cases items <;> cases handed

theorem backed_proceed (told : Told conversation latest) (same : feed.types = types) :
    Backed types conversation (feed.proceed latest) := by
  unfold proceed
  split
  · rename_i reached
    refine ⟨told, rfl, ⟨conversation, [], latest, by simp, told, reached, ?_⟩, rfl⟩
    rw [← same]
    exact .start
  · split <;> trivial

theorem backed_hearStatus (answer : Rpc.Answer) (same : feed.types = types) :
    Backed types (conversation ++ [(statusCall, answer)]) (feed.hearStatus answer) := by
  unfold hearStatus
  split <;> rename_i tells
  · apply backed_proceed
    · exact ⟨answer, List.mem_append_right _ (List.mem_singleton_self _), tells⟩
    · exact same
  · exact Or.inl ⟨conversation, answer, rfl, tells⟩

theorem backed_hearPage {search : Search} (answer : Rpc.Answer)
    (told : Told conversation latest) (same : search.height = feed.next)
    (underway : Underway types feed.next conversation search) :
    Backed types (conversation ++ [(search.call, answer)])
      (feed.hearPage latest search answer) := by
  have page := underway.page same answer
  have kept := search.next_height answer
  unfold hearPage
  split <;> rename_i outcome <;> rw [outcome] at page kept
  · exact ⟨told.later _, kept.trans same, page, rfl⟩
  · exact ⟨told.later _, page⟩
  · exact page

theorem backed_hear {after : Feed} {answer : Rpc.Answer} (same : feed.types = types)
    (backed : Backed types conversation feed) (hear : feed.hear? answer = some after) :
    Backed types (conversation ++ feed.heard (.answer answer)) after := by
  -- An answer is one to the last call, which is the one that the feed waits on.
  have asked {call : Rpc.Call} (last : feed.calls.head? = some call) :
      feed.heard (.answer answer) = [(call, answer)] := by
    obtain ⟨rest, calls⟩ := List.head?_eq_some_iff.mp last
    simp [heard, calls]
  unfold hear? at hear
  unfold Backed at backed
  split at hear <;> rename_i position
  · rw [position] at backed
    cases hear
    rw [asked backed]
    exact backed_hearStatus answer same
  · rw [position] at backed
    obtain ⟨told, labelled, underway, last⟩ := backed
    cases hear
    rw [asked last]
    exact backed_hearPage answer told labelled underway
  · cases hear

theorem types_proceed (feed : Feed) (latest : Nat) :
    (feed.proceed latest).types = feed.types := by
  unfold proceed
  split <;> rfl

theorem types_hear {after : Feed} {answer : Rpc.Answer}
    (hear : feed.hear? answer = some after) : after.types = feed.types := by
  unfold hear? at hear
  split at hear <;> cases hear
  · unfold hearStatus
    split
    · exact types_proceed _ _
    · rfl
  · unfold hearPage
    split <;> rfl

theorem isEnded_hear {after : Feed} {answer : Rpc.Answer}
    (hear : feed.hear? answer = some after) : feed.isEnded = false := by
  unfold hear? at hear
  unfold isEnded
  split at hear <;> rename_i position
  · rw [position]
  · rw [position]
  · cases hear

theorem accounted_hear {after : Feed} {answer : Rpc.Answer}
    (accounted : Accounted types height conversation feed)
    (hear : feed.hear? answer = some after) :
    Accounted types height (conversation ++ feed.heard (.answer answer)) after := by
  have silent := silent_hear hear
  refine ⟨(types_hear hear).trans accounted.asks,
    backed_hear accounted.asks accounted.backed hear, ?_, ?_⟩
  · intro batch handed
    rw [silent.received, silent.buffer] at handed
    exact (accounted.batches batch handed).later _
  · intro items failure rest handed
    rw [silent.received, silent.buffer] at handed
    have halted := (accounted.failure items failure rest handed).1
    rw [isEnded_hear hear] at halted
    cases halted

theorem only_failure {batches : List Batch} {last failure : Failure}
    {items rest : List (Except Failure Batch)}
    (same : batches.map .ok ++ [.error last] = items ++ .error failure :: rest) :
    items.length = batches.length ∧ failure = last := by
  induction batches generalizing items with
  | nil =>
      cases items with
      | nil =>
          cases same
          exact ⟨rfl, rfl⟩
      | cons item items =>
          have none := (List.cons.inj same).2
          simp at none
  | cons batch batches ih =>
      cases items with
      | nil => cases same
      | cons item items =>
          obtain ⟨length, failure⟩ := ih (List.cons.inj same).2
          exact ⟨congrArg Nat.succ length, failure⟩

theorem no_failure {batches : List Batch} {failure : Failure}
    {items rest : List (Except Failure Batch)} :
    batches.map .ok ≠ items ++ .error failure :: rest := by
  intro same
  have inside : .error failure ∈ batches.map (Except.ok (ε := Failure)) := by
    rw [same]
    simp
  obtain ⟨batch, _, contradiction⟩ := List.mem_map.mp inside
  cases contradiction

theorem accounted_advance {batch : Batch} (whole : Open height feed)
    (told : Told conversation latest) (found : Found types conversation batch)
    (accounted : Accounted types height conversation feed) :
    Accounted types height conversation
      (advance { feed with buffer := feed.buffer ++ [.ok batch] } latest) := by
  obtain ⟨batches, handed, _, _⟩ := whole
  have longer : feed.received ++ (feed.buffer ++ [.ok batch]) =
      (batches ++ [batch]).map .ok := by
    rw [← List.append_assoc, handed, List.map_append]
    rfl
  have backs : ∀ other, .ok other ∈ feed.received ++ (feed.buffer ++ [.ok batch]) →
      Found types conversation other := by
    intro other among
    rw [← List.append_assoc, List.mem_append, List.mem_singleton] at among
    rcases among with among | same
    · exact accounted.batches other among
    · cases same
      exact found
  -- The feed is open, so there are batches only and nothing is to be said of a failure.
  have whole : ∀ items failure rest,
      feed.received ++ (feed.buffer ++ [.ok batch]) ≠ items ++ .error failure :: rest := by
    intro items failure rest
    rw [longer]
    exact no_failure
  unfold advance
  split
  · rename_i next _
    have silent := silent_proceed
      { feed with next, buffer := feed.buffer ++ [.ok batch] } latest
    refine ⟨(types_proceed _ _).trans accounted.asks, backed_proceed told accounted.asks, ?_, ?_⟩
    · rw [silent.received, silent.buffer]
      exact backs
    · rw [silent.received, silent.buffer]
      intro items failure rest same
      exact absurd same (whole items failure rest)
  · refine ⟨accounted.asks, trivial, backs, ?_⟩
    intro items failure rest same
    exact absurd same (whole items failure rest)

theorem accounted_fail {failure : Failure} (whole : Open height feed)
    (broke : Broke types feed.next conversation failure)
    (accounted : Accounted types height conversation feed) :
    Accounted types height conversation
      (moveTo { feed with buffer := feed.buffer ++ [.error failure] } .ended) := by
  obtain ⟨batches, handed, _, next⟩ := whole
  have longer : feed.received ++ (feed.buffer ++ [.error failure]) =
      batches.map .ok ++ [.error failure] := by
    rw [← List.append_assoc, handed]
  refine ⟨accounted.asks, trivial, ?_, ?_⟩
  · intro batch among
    simp only [moveTo, ← List.append_assoc, List.mem_append, List.mem_singleton,
      reduceCtorEq, or_false] at among
    exact accounted.batches batch (List.mem_append.mpr among)
  · intro items other rest same
    obtain ⟨length, rfl⟩ := only_failure (longer.symm.trans same)
    rw [length, ← next]
    exact ⟨rfl, broke⟩

theorem Accounted.halt (accounted : Accounted types height conversation feed) :
    Accounted types height conversation (feed.moveTo .ended) := by
  refine ⟨accounted.asks, trivial, accounted.batches, ?_⟩
  intro items failure rest same
  exact ⟨rfl, (accounted.failure items failure rest same).2⟩

theorem accounted_deliver {after : Feed} (delivering : Delivering height feed)
    (accounted : Accounted types height conversation feed)
    (delivered : feed.deliver? = some after) : Accounted types height conversation after := by
  have backed := accounted.backed
  rcases delivering with ⟨present, ordered⟩ | ⟨gone, _, _⟩
  · unfold Ordered at ordered
    unfold deliver? at delivered
    unfold Backed at backed
    split at delivered <;> rename_i position
    · rw [position] at ordered backed
      rw [handOver?, if_neg (by simp [present])] at delivered
      split at delivered <;> cases delivered
      exact accounted_advance ordered.1 backed.1 backed.2 accounted
    · rw [position] at ordered backed
      rw [handOver?, if_neg (by simp [present])] at delivered
      split at delivered <;> cases delivered
      exact accounted_fail ordered backed accounted
    · cases delivered
  -- The receiver has left, and what would be handed over is lost.
  · simp only [deliver?, handOver?, gone, if_true] at delivered
    split at delivered <;> cases delivered <;> exact accounted.halt

theorem Accounted.move {received buffer : List (Except Failure Batch)} {isDropped : Bool}
    (accounted : Accounted types height conversation feed)
    (rest : List (Except Failure Batch))
    (same : received ++ buffer ++ rest = feed.received ++ feed.buffer) :
    Accounted types height conversation { feed with received, buffer, isDropped } := by
  -- The receiver's moves put no item behind another and take none away from before one.
  refine ⟨accounted.asks, accounted.backed, ?_, ?_⟩
  · intro batch among
    apply accounted.batches
    rw [← same]
    exact List.mem_append_left _ among
  · intro items failure later handed
    apply accounted.failure items failure (later ++ rest)
    rw [← same, handed]
    simp

theorem accounted_step {after : Feed} (action : Action) (delivering : Delivering height feed)
    (accounted : Accounted types height conversation feed)
    (stepped : feed.step? action = some after) :
    Accounted types height (conversation ++ feed.heard action) after := by
  cases action with
  | answer answer => exact accounted_hear accounted stepped
  | deliver =>
      simp only [heard, List.append_nil]
      exact accounted_deliver delivering accounted stepped
  | receive =>
      simp only [heard, List.append_nil]
      simp only [step?, receive?] at stepped
      split at stepped <;> cases stepped
      rename_i item rest buffer
      exact accounted.move [] (by rw [buffer]; simp)
  | drop =>
      simp only [heard, List.append_nil]
      cases stepped
      exact accounted.move feed.buffer (by rw [List.append_nil])
  | wake =>
      simp only [heard, List.append_nil]
      simp only [step?, wake?] at stepped
      split at stepped <;> cases stepped
      refine ⟨accounted.asks, rfl, accounted.batches, ?_⟩
      intro items failure rest same
      have halted := (accounted.failure items failure rest same).1
      rename_i position
      rw [isEnded, position] at halted
      cases halted

theorem Hears.accounted (hears : Hears types height conversation feed) :
    Delivering height feed ∧ Accounted types height conversation feed := by
  induction hears with
  | start => exact ⟨Or.inl ⟨rfl, ordered_start types⟩, accounted_start⟩
  | step action _ stepped ih =>
      exact ⟨delivering_step action ih.1 stepped, accounted_step action ih.1 ih.2 stepped⟩

/-- Whatever heights the node tells, whatever it answers to the searches and whenever the
receiver looks or leaves: it gets the batch of each height from the first one on, once and
in this order, each the result of a search of a height that the node had told to be there;
and at most one failure behind them, which the question for the latest height or the search
of the first missing height brought. -/
theorem received_backed (hears : Hears types height conversation feed) :
    ∃ batches ending, feed.received = batches.map .ok ++ ending ∧
      Consecutive height batches ∧ (∀ batch ∈ batches, Found types conversation batch) ∧
      (ending = [] ∨ ∃ failure, ending = [.error failure] ∧
        Broke types (height + batches.length) conversation failure) := by
  obtain ⟨_, accounted⟩ := hears.accounted
  obtain ⟨batches, ending, same, consecutive, ends⟩ := received_inOrder hears.reachable
  refine ⟨batches, ending, same, consecutive, ?_, ?_⟩
  · intro batch among
    apply accounted.batches
    rw [same]
    exact List.mem_append_left _ (List.mem_append_left _ (List.mem_map_of_mem among))
  · rcases ends with none | ⟨failure, rfl⟩
    · exact Or.inl none
    · refine Or.inr ⟨failure, rfl, ?_⟩
      have broke := (accounted.failure (batches.map .ok) failure feed.buffer
        (by rw [same]; simp)).2
      rwa [List.length_map] at broke

def tellsOne : Rpc.Answer := .result (.object
  [("sync_info", .object [("latest_block_height", .string "1")])])

def holdsOne : Rpc.Answer := .result (.object
  [("total_count", .string "1"), ("txs", .array [.object [("hash", .string "T"),
    ("height", .string "1"), ("tx_result", .object [("events", .array [.object
      [("type", .string "wasm"), ("attributes", .array [])]])])]])])

/-- One batch, and then the node does not answer any more. -/
theorem one_batch_then_silence : ∃ conversation feed, Hears ["wasm"] 1 conversation feed ∧
    feed.received = [.ok ⟨1, [⟨"wasm", "T", 1, []⟩]⟩, .error .transport] ∧
    ∃ batches ending, feed.received = batches.map .ok ++ ending ∧
      Consecutive 1 batches ∧ (∀ batch ∈ batches, Found ["wasm"] conversation batch) ∧
      (ending = [] ∨ ∃ failure, ending = [.error failure] ∧
        Broke ["wasm"] (1 + batches.length) conversation failure) := by
  have asked : Hears ["wasm"] 1 [] _ := .start
  have told := asked.step (.answer tellsOne) rfl
  have found := told.step (.answer holdsOne) rfl
  have handed := found.step .deliver rfl
  have received := handed.step .receive rfl
  have woken := received.step .wake rfl
  have unanswered := woken.step (.answer .unavailable) rfl
  have failed := unanswered.step .deliver rfl
  have ended := failed.step .receive rfl
  exact ⟨_, _, ended, rfl, received_backed ended⟩

end Feed

end Settlement.Chain
