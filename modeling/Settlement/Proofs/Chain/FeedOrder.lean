import Settlement.Chain.Feed

/-!
What a receiver gets from a feed: the batches of consecutive heights from the first one on,
and after them at most one failure. While the feed goes on, the heights handed over so far
end right before the next one.
-/

namespace Settlement.Chain

def Consecutive (height : Nat) (batches : List Batch) : Prop :=
  ∀ (index : Nat) (batch : Batch), batches[index]? = some batch → batch.height = height + index

/-- Consecutive batches, after which there may be one failure and nothing else. -/
def InOrder (height : Nat) (items : List (Except Failure Batch)) : Prop :=
  ∃ batches ending, items = batches.map .ok ++ ending ∧ Consecutive height batches ∧
    (ending = [] ∨ ∃ failure, ending = [.error failure])

theorem Consecutive.snoc {height : Nat} {batches : List Batch} {batch : Batch}
    (consecutive : Consecutive height batches) (next : batch.height = height + batches.length) :
    Consecutive height (batches ++ [batch]) := by
  intro index other found
  by_cases inside : index < batches.length
  · rw [List.getElem?_append_left inside] at found
    exact consecutive index other found
  · rw [List.getElem?_append_right (by omega), List.getElem?_singleton] at found
    split at found
    · cases found
      omega
    · cases found

theorem Consecutive.left {height : Nat} {first rest : List Batch}
    (consecutive : Consecutive height (first ++ rest)) : Consecutive height first := by
  intro index batch found
  apply consecutive index batch
  rw [List.getElem?_append_left (List.getElem?_eq_some_iff.mp found).1]
  exact found

theorem InOrder.head {height : Nat} {first rest : List (Except Failure Batch)}
    (order : InOrder height (first ++ rest)) : InOrder height first := by
  obtain ⟨batches, ending, same, consecutive, ends⟩ := order
  rcases List.append_eq_append_iff.mp same with ⟨middle, whole, _⟩ | ⟨middle, whole, tail⟩
  · obtain ⟨left, right, rfl, rfl, _⟩ := List.map_eq_append_iff.mp whole
    exact ⟨left, [], by simp, consecutive.left, Or.inl rfl⟩
  · refine ⟨batches, middle, whole, consecutive, ?_⟩
    rcases ends with rfl | ⟨failure, rfl⟩
    · exact Or.inl (List.append_eq_nil_iff.mp tail.symm).1
    · rcases middle with _ | ⟨item, middle⟩
      · exact Or.inl rfl
      · obtain ⟨rfl, none⟩ := List.cons.inj tail
        rw [(List.append_eq_nil_iff.mp none.symm).1]
        exact Or.inr ⟨failure, rfl⟩

theorem Search.next_height (search : Search) (answer : Rpc.Answer) :
    match search.next answer with
    | .more after => after.height = search.height
    | .done (.ok batch) => batch.height = search.height
    | .done (.error _) => True := by
  unfold Search.next
  cases Search.pageOf answer with
  | error failure => trivial
  | ok page =>
      by_cases enough : (page.transactions.isEmpty ||
          page.total ≤ search.seen + page.transactions.length) = true
      · simp only [Search.take, if_pos enough]
      · simp only [Search.take, if_neg enough]

namespace Feed

def Open (height : Nat) (feed : Feed) : Prop :=
  ∃ batches, feed.received ++ feed.buffer = batches.map .ok ∧ Consecutive height batches ∧
    feed.next = height + batches.length

def Ordered (height : Nat) (feed : Feed) : Prop :=
  match feed.position with
  | .ended => InOrder height (feed.received ++ feed.buffer)
  | .searching _ search => Open height feed ∧ search.height = feed.next
  | .sending _ batch => Open height feed ∧ batch.height = feed.next
  | .polling | .failing _ | .sleeping => Open height feed

variable {height : Nat} {feed : Feed}

theorem Open.inOrder (whole : Open height feed) :
    InOrder height (feed.received ++ feed.buffer) := by
  obtain ⟨batches, handed, consecutive, _⟩ := whole
  exact ⟨batches, [], by simp [handed], consecutive, Or.inl rfl⟩

theorem Ordered.inOrder (ordered : Ordered height feed) :
    InOrder height (feed.received ++ feed.buffer) := by
  unfold Ordered at ordered
  split at ordered
  · exact ordered
  · exact ordered.1.inOrder
  · exact ordered.1.inOrder
  all_goals exact Open.inOrder ordered

theorem ordered_start (types : List String) : Ordered height (start types height) :=
  ⟨[], rfl, (by simp [Consecutive]), rfl⟩

theorem ordered_proceed (latest : Nat) (whole : Open height feed) :
    Ordered height (feed.proceed latest) := by
  unfold proceed
  split
  · exact ⟨whole, rfl⟩
  · split
    · exact whole.inOrder
    · exact whole

theorem ordered_hearStatus (answer : Rpc.Answer) (whole : Open height feed) :
    Ordered height (feed.hearStatus answer) := by
  unfold hearStatus
  split
  · apply ordered_proceed
    exact whole
  · exact whole

theorem ordered_hearPage (latest : Nat) {search : Search} (answer : Rpc.Answer)
    (whole : Open height feed) (same : search.height = feed.next) :
    Ordered height (feed.hearPage latest search answer) := by
  have kept := search.next_height answer
  unfold hearPage
  split <;> rename_i told <;> rw [told] at kept
  · exact ⟨whole, kept.trans same⟩
  · exact ⟨whole, kept.trans same⟩
  · exact whole

theorem ordered_advance (latest : Nat) {batch : Batch} (whole : Open height feed)
    (same : batch.height = feed.next) :
    Ordered height (advance { feed with buffer := feed.buffer ++ [.ok batch] } latest) := by
  obtain ⟨batches, handed, consecutive, next⟩ := whole
  have longer : feed.received ++ (feed.buffer ++ [.ok batch]) =
      (batches ++ [batch]).map .ok := by
    rw [← List.append_assoc, handed, List.map_append]
    rfl
  have more := consecutive.snoc (same.trans next)
  unfold advance Height.next?
  by_cases fits : feed.next < Text.Decimal.maxUnsigned
  · simp only [if_pos fits]
    apply ordered_proceed
    exact ⟨batches ++ [batch], longer, more, by simp [next, Nat.add_assoc]⟩
  · simp only [if_neg fits]
    exact ⟨batches ++ [batch], [], by simpa [moveTo] using longer, more, Or.inl rfl⟩

theorem ordered_fail (failure : Failure) (whole : Open height feed) :
    Ordered height (moveTo { feed with buffer := feed.buffer ++ [.error failure] } .ended) := by
  obtain ⟨batches, handed, consecutive, _⟩ := whole
  refine ⟨batches, [.error failure], ?_, consecutive, Or.inr ⟨failure, rfl⟩⟩
  simp only [moveTo, ← handed, List.append_assoc]

/-- Nothing that was received is changed by what the feed does, and a feed whose receiver is
gone hands nothing over. -/
structure Silent (before after : Feed) : Prop where
  received : after.received = before.received
  buffer : after.buffer = before.buffer
  dropped : after.isDropped = before.isDropped

theorem silent_proceed (feed : Feed) (latest : Nat) : Silent feed (feed.proceed latest) := by
  unfold proceed
  split
  · constructor <;> rfl
  · constructor <;> rfl

theorem silent_hear {feed after : Feed} {answer : Rpc.Answer}
    (heard : feed.hear? answer = some after) : Silent feed after := by
  unfold hear? at heard
  split at heard
  · cases heard
    unfold hearStatus
    split
    · rename_i latest _
      have silent := silent_proceed { feed with told := latest :: feed.told } latest
      exact ⟨silent.received, silent.buffer, silent.dropped⟩
    · constructor <;> rfl
  · cases heard
    unfold hearPage
    split <;> constructor <;> rfl
  · cases heard

theorem ordered_hear {after : Feed} {answer : Rpc.Answer} (ordered : Ordered height feed)
    (heard : feed.hear? answer = some after) : Ordered height after := by
  unfold hear? at heard
  unfold Ordered at ordered
  split at heard <;> rename_i position
  · rw [position] at ordered
    cases heard
    exact ordered_hearStatus answer ordered
  · rw [position] at ordered
    cases heard
    exact ordered_hearPage _ answer ordered.1 ordered.2
  · cases heard

theorem ordered_deliver {after : Feed} (present : feed.isDropped = false)
    (ordered : Ordered height feed) (delivered : feed.deliver? = some after) :
    after.isDropped = false ∧ Ordered height after := by
  unfold deliver? at delivered
  unfold Ordered at ordered
  split at delivered <;> rename_i position
  · rw [position] at ordered
    rw [handOver?, if_neg (by simp [present])] at delivered
    split at delivered <;> cases delivered
    refine ⟨?_, ordered_advance _ ordered.1 ordered.2⟩
    unfold advance
    split
    · rw [(silent_proceed _ _).dropped]
      exact present
    · exact present
  · rw [position] at ordered
    rw [handOver?, if_neg (by simp [present])] at delivered
    split at delivered <;> cases delivered
    exact ⟨present, ordered_fail _ ordered⟩
  · cases delivered

theorem Ordered.move {received buffer : List (Except Failure Batch)}
    (ordered : Ordered height feed) (same : received ++ buffer = feed.received ++ feed.buffer) :
    Ordered height { feed with received, buffer } := by
  -- Only the items themselves matter, not how many of them are already received.
  have whole : Open height feed → Open height { feed with received, buffer } := by
    rintro ⟨batches, handed, rest⟩
    exact ⟨batches, same.trans handed, rest⟩
  unfold Ordered at ordered ⊢
  simp only
  split <;> rename_i position <;> rw [position] at ordered
  · rwa [same]
  · exact ⟨whole ordered.1, ordered.2⟩
  · exact ⟨whole ordered.1, ordered.2⟩
  all_goals exact whole ordered

def Delivering (height : Nat) (feed : Feed) : Prop :=
  feed.isDropped = false ∧ Ordered height feed ∨
    feed.isDropped = true ∧ feed.buffer = [] ∧ InOrder height feed.received

theorem delivering_step {after : Feed} (action : Action) (delivering : Delivering height feed)
    (stepped : feed.step? action = some after) : Delivering height after := by
  -- While the receiver is there the steps keep the order, and once it is gone they keep what it
  -- got.
  rcases delivering with ⟨present, ordered⟩ | ⟨gone, empty, received⟩
  · cases action with
    | answer answer =>
        left
        constructor
        · exact (silent_hear stepped).dropped.trans present
        · exact ordered_hear ordered stepped
    | deliver =>
        left
        exact ordered_deliver present ordered stepped
    | receive =>
        left
        simp only [step?, receive?] at stepped
        split at stepped <;> cases stepped
        rename_i item rest handed
        refine ⟨present, ordered.move ?_⟩
        rw [List.append_assoc, List.singleton_append, handed]
    | drop =>
        cases stepped
        exact Or.inr ⟨rfl, rfl, ordered.inOrder.head⟩
    | wake =>
        left
        simp only [step?, wake?] at stepped
        split at stepped <;> cases stepped
        rename_i position
        rw [Ordered, position] at ordered
        exact ⟨present, ordered⟩
  · right
    cases action with
    | answer answer =>
        have silent := silent_hear stepped
        rw [silent.dropped, silent.buffer, silent.received]
        exact ⟨gone, empty, received⟩
    | deliver =>
        simp only [step?, deliver?, handOver?, gone, if_true] at stepped
        split at stepped <;> cases stepped <;> exact ⟨gone, empty, received⟩
    | receive =>
        simp only [step?, receive?, empty] at stepped
        cases stepped
    | drop =>
        cases stepped
        exact ⟨rfl, rfl, received⟩
    | wake =>
        simp only [step?, wake?] at stepped
        split at stepped <;> cases stepped
        exact ⟨gone, empty, received⟩

theorem Reachable.delivering {types : List String} (reachable : Reachable types height feed) :
    Delivering height feed := by
  induction reachable with
  | start => exact Or.inl ⟨rfl, ordered_start types⟩
  | step action _ stepped ih => exact delivering_step action ih stepped

/-- Whatever the node answers and whenever the receiver looks or leaves. -/
theorem received_inOrder {types : List String} (reachable : Reachable types height feed) :
    InOrder height feed.received := by
  rcases reachable.delivering with ⟨_, ordered⟩ | ⟨_, _, received⟩
  · exact ordered.inOrder.head
  · exact received

end Feed

end Settlement.Chain
