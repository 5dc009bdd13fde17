import Settlement.Proofs.Chain.FeedOutcomes

/-!
What a feed still does when its receiver has gone. It learns of that when it hands over an item or
finds itself at the chain's head. Until then it asks for the latest height at most once, and only
if it was asleep, and searches at most the height that comes next. Nothing holds it up, so every
step of its own that asks for nothing brings it to its end, where it falls silent.
-/

namespace Settlement.Chain

def Rpc.Call.Searches (height : Nat) (call : Rpc.Call) : Prop :=
  call.method = "tx_search" ∧
    ("query", Json.string ("tx.height=" ++ toString height)) ∈ call.params

theorem Search.call_searches (search : Search) : search.call.Searches search.height :=
  ⟨rfl, List.mem_cons_self⟩

namespace Feed

def run? (actions : List Action) (feed : Feed) : Option Feed := actions.foldlM step? feed

def Action.isOwn : Action → Bool
  | .answer _ | .deliver | .wake => true
  | .receive | .drop => false

def Position.spent : Position → Nat
  | .polling | .searching .. | .sleeping => 0
  | .sending .. | .failing _ => 1
  | .ended => 2

def Position.Allows (height : Nat) (statuses searches : List Rpc.Call) : Position → Prop
  | .sleeping => statuses = [] ∧ searches = []
  | .polling => searches = []
  | .searching _ search => search.height = height
  | .sending .. | .failing _ | .ended => True

/-- What a feed has asked for in some steps since its receiver went away. -/
structure Since (first : Feed) (steps : Nat) (statuses searches : List Rpc.Call) (feed : Feed) :
    Prop where
  gone : feed.isDropped = true
  next : feed.next = first.next
  calls : feed.calls.reverse = first.calls.reverse ++ statuses ++ searches
  oneStatus : statuses = [] ∨ statuses = [statusCall]
  oneHeight : ∀ call ∈ searches, call.Searches first.next
  allowed : feed.position.Allows first.next statuses searches
  counted : steps ≤ statuses.length + searches.length + feed.position.spent

section Steps

variable {first feed after : Feed} {steps : Nat} {statuses searches : List Rpc.Call}

theorem Since.moveOn (since : Since first steps statuses searches feed) {position : Position}
    (allowed : position.Allows first.next statuses searches)
    (nearer : feed.position.spent < position.spent) :
    Since first (steps + 1) statuses searches (feed.moveTo position) := by
  have counted := since.counted
  refine ⟨since.gone, since.next, since.calls, since.oneStatus, since.oneHeight, allowed, ?_⟩
  change steps + 1 ≤ statuses.length + searches.length + position.spent
  omega

theorem Since.search (since : Since first steps statuses searches feed) {latest : Nat}
    {search : Search} (same : search.height = first.next) (asks : feed.position.spent = 0) :
    Since first (steps + 1) statuses (searches ++ [search.call])
      ((feed.moveTo (.searching latest search)).askFor search.call) := by
  have counted := since.counted
  refine ⟨since.gone, since.next, ?_, since.oneStatus, ?_, same, ?_⟩
  · simp only [askFor, moveTo, List.reverse_cons, since.calls, List.append_assoc]
  · intro call member
    rcases List.mem_append.mp member with before | now
    · exact since.oneHeight call before
    · rw [List.mem_singleton.mp now, ← same]
      exact search.call_searches
  · simp only [askFor, moveTo, Position.spent, List.length_append, List.length_singleton]
    omega

theorem Since.proceed (since : Since first steps statuses searches feed) (latest : Nat)
    (asks : feed.position.spent = 0) :
    ∃ more, Since first (steps + 1) statuses more (feed.proceed latest) := by
  unfold Feed.proceed
  -- A new search begins here only, and nothing moves the next height once the receiver has gone.
  by_cases reached : feed.next ≤ latest
  · rw [if_pos reached]
    exact ⟨_, since.search since.next asks⟩
  · rw [if_neg reached, if_pos since.gone]
    exact ⟨searches, since.moveOn trivial (by rw [asks]; decide)⟩

theorem Since.hear (since : Since first steps statuses searches feed) {answer : Rpc.Answer}
    (heard : feed.hear? answer = some after) :
    ∃ more, Since first (steps + 1) statuses more after := by
  have allowed := since.allowed
  unfold hear? at heard
  split at heard <;> rename_i position
  · cases heard
    have asks : feed.position.spent = 0 := by rw [position]; rfl
    unfold hearStatus
    split
    · rename_i latest _
      have told : Since first steps statuses searches { feed with told := latest :: feed.told } :=
        ⟨since.gone, since.next, since.calls, since.oneStatus, since.oneHeight, allowed,
          since.counted⟩
      exact told.proceed latest asks
    · exact ⟨searches, since.moveOn trivial (by rw [asks]; exact Nat.one_pos)⟩
  · rename_i latest search
    cases heard
    have asks : feed.position.spent = 0 := by rw [position]; rfl
    have same : search.height = first.next := by rwa [position] at allowed
    have kept := search.next_height answer
    unfold hearPage
    split <;> rename_i told
    · rw [told] at kept
      exact ⟨_, since.search (kept.trans same) asks⟩
    · exact ⟨searches, since.moveOn trivial (by rw [asks]; exact Nat.one_pos)⟩
    · exact ⟨searches, since.moveOn trivial (by rw [asks]; exact Nat.one_pos)⟩
  · cases heard

theorem Since.deliver (since : Since first steps statuses searches feed)
    (delivered : feed.deliver? = some after) :
    Since first (steps + 1) statuses searches after := by
  unfold deliver? handOver? at delivered
  simp only [since.gone, if_true] at delivered
  split at delivered <;> rename_i position <;> cases delivered
  · exact since.moveOn trivial (by rw [position]; exact Nat.one_lt_two)
  · exact since.moveOn trivial (by rw [position]; exact Nat.one_lt_two)

theorem Since.wake (since : Since first steps statuses searches feed)
    (woken : feed.wake? = some after) : Since first (steps + 1) [statusCall] searches after := by
  have allowed := since.allowed
  have counted := since.counted
  have calls := since.calls
  unfold wake? at woken
  split at woken <;> rename_i position
  · cases woken
    rw [position] at allowed counted
    -- Whoever wakes was asleep when the receiver went, so this is the first question.
    obtain ⟨rfl, rfl⟩ := allowed
    refine ⟨since.gone, since.next, ?_, .inr rfl, since.oneHeight, rfl, ?_⟩
    · simp only [askFor, moveTo, List.reverse_cons, calls, List.append_nil]
    · simp only [askFor, moveTo, Position.spent, List.length_singleton]
      simp only [Position.spent, List.length_nil] at counted
      omega
  · cases woken

/-- Every step keeps to one question for the latest height and the search of one height. -/
theorem Since.step (since : Since first steps statuses searches feed) {action : Action}
    (stepped : feed.step? action = some after) :
    ∃ asked more, Since first (steps + action.isOwn.toNat) asked more after := by
  cases action with
  | answer answer => exact ⟨statuses, since.hear stepped⟩
  | deliver => exact ⟨statuses, searches, since.deliver stepped⟩
  | wake => exact ⟨[statusCall], searches, since.wake stepped⟩
  | receive =>
      simp only [step?, receive?] at stepped
      split at stepped <;> cases stepped
      exact ⟨statuses, searches, since.gone, since.next, since.calls, since.oneStatus,
        since.oneHeight, since.allowed, since.counted⟩
  | drop =>
      cases stepped
      exact ⟨statuses, searches, rfl, since.next, since.calls, since.oneStatus, since.oneHeight,
        since.allowed, since.counted⟩

theorem Since.run {actions : List Action} (since : Since first steps statuses searches feed)
    (ran : feed.run? actions = some after) :
    ∃ asked more, Since first (steps + actions.countP Action.isOwn) asked more after := by
  induction actions generalizing feed steps statuses searches with
  | nil =>
      cases ran
      exact ⟨statuses, searches, since⟩
  | cons action rest ih =>
      obtain ⟨middle, stepped, ran⟩ := Option.bind_eq_some_iff.mp ran
      obtain ⟨_, _, since⟩ := since.step stepped
      obtain ⟨asked, more, since⟩ := ih since ran
      refine ⟨asked, more, ?_⟩
      rw [List.countP_cons, Nat.add_comm (rest.countP _), ← Nat.add_assoc]
      cases own : action.isOwn <;> simpa [own] using since

end Steps

section Ends

variable {types : List String} {height : Nat} {feed after : Feed} {actions : List Action}

theorem Reachable.allows (reachable : Reachable types height feed)
    (present : feed.isDropped = false) : feed.position.Allows feed.next [] [] := by
  have ordered : Ordered height feed := by
    rcases reachable.delivering with ⟨_, ordered⟩ | ⟨gone, _⟩
    · exact ordered
    · cases present.symm.trans gone
  unfold Ordered at ordered
  cases position : feed.position with
  | sleeping => exact ⟨rfl, rfl⟩
  | polling => rfl
  | searching latest search =>
      rw [position] at ordered
      exact ordered.2
  | sending | failing | ended => trivial

theorem Reachable.dropped (reachable : Reachable types height feed)
    (present : feed.isDropped = false) :
    Since feed 0 [] [] { feed with isDropped := true, buffer := [] } :=
  ⟨rfl, rfl, by simp, .inl rfl, by simp, reachable.allows present, Nat.zero_le _⟩

/-- A feed whose receiver has gone waits for nothing but the node's answer and its own alarm. -/
theorem can_step (gone : feed.isDropped = true) (going : feed.isEnded = false) :
    ∃ action, action.isOwn = true ∧ (feed.step? action).isSome = true := by
  cases position : feed.position with
  | polling => exact ⟨.answer .unavailable, rfl, by simp [step?, hear?, position]⟩
  | searching => exact ⟨.answer .unavailable, rfl, by simp [step?, hear?, position]⟩
  | sending => exact ⟨.deliver, rfl, by simp [step?, deliver?, handOver?, position, gone]⟩
  | failing => exact ⟨.deliver, rfl, by simp [step?, deliver?, handOver?, position, gone]⟩
  | sleeping => exact ⟨.wake, rfl, by simp [step?, wake?, position]⟩
  | ended => simp [isEnded, position] at going

theorem isEnded_iff : feed.isEnded = true ↔ feed.position = .ended := by
  unfold isEnded
  cases feed.position <;> simp

theorem ended_step {action : Action} (ended : feed.isEnded = true)
    (stepped : feed.step? action = some after) :
    after.isEnded = true ∧ after.calls = feed.calls := by
  have position := isEnded_iff.mp ended
  cases action with
  | answer | deliver | wake => simp [step?, hear?, deliver?, wake?, position] at stepped
  | receive =>
      simp only [step?, receive?] at stepped
      split at stepped <;> cases stepped
      exact ⟨ended, rfl⟩
  | drop =>
      cases stepped
      exact ⟨ended, rfl⟩

theorem ended_run (ended : feed.isEnded = true) (ran : feed.run? actions = some after) :
    after.calls = feed.calls := by
  induction actions generalizing feed with
  | nil =>
      cases ran
      rfl
  | cons action rest ih =>
      obtain ⟨middle, stepped, ran⟩ := Option.bind_eq_some_iff.mp ran
      obtain ⟨still, same⟩ := ended_step ended stepped
      exact (ih still ran).trans same

/-- Wherever the feed stands when its receiver goes away, whatever is in the buffer and whatever
the node answers: from then on it asks for the latest height at most once, and then for pages of
the height that is next, and for nothing else. It is never held up, takes at most two steps more
than it asks questions, and asks none any more when it has ended. -/
theorem dropped_feed_falls_silent (reachable : Reachable types height feed)
    (present : feed.isDropped = false) (ran : feed.run? (.drop :: actions) = some after) :
    (∃ statuses searches,
      after.calls.reverse = feed.calls.reverse ++ statuses ++ searches ∧
      (statuses = [] ∨ statuses = [statusCall]) ∧ (∀ call ∈ searches, call.Searches feed.next) ∧
      actions.countP Action.isOwn ≤ statuses.length + searches.length + 2) ∧
    (after.isEnded = false → ∃ action, action.isOwn = true ∧ (after.step? action).isSome = true) ∧
    (after.isEnded = true → ∀ later last, after.run? later = some last →
      last.calls = after.calls) := by
  obtain ⟨statuses, searches, since⟩ := (reachable.dropped present).run ran
  refine ⟨⟨statuses, searches, since.calls, since.oneStatus, since.oneHeight, ?_⟩,
    can_step since.gone, fun ended _ _ ran => ended_run ended ran⟩
  have counted := since.counted
  have spent : after.position.spent ≤ 2 := by
    cases after.position <;> simp [Position.spent]
  omega

end Ends

def tellsTwo : Rpc.Answer := .result (.object
  [("sync_info", .object [("latest_block_height", .string "2")])])

def holdsNone : Rpc.Answer := .result (.object
  [("total_count", .string "0"), ("txs", .array [])])

/-- The feed is asleep when its receiver leaves. It asks once more, hears of a new block and
searches it for nobody. -/
theorem sleeper_searches_one_more_block : ∃ feed after, Reachable ["wasm"] 2 feed ∧
    feed.isDropped = false ∧
    feed.run? [.drop, .wake, .answer tellsTwo, .answer holdsNone, .deliver] = some after ∧
    after.calls.reverse = feed.calls.reverse ++ [statusCall] ++
      [(Search.start ["wasm"] 2).call] ∧
    after.isEnded = true ∧ ∀ later last, after.run? later = some last →
      last.calls = after.calls := by
  have asked : Reachable ["wasm"] 2 _ := .start
  have asleep := asked.step (.answer tellsOne) rfl
  obtain ⟨_, _, silent⟩ := @dropped_feed_falls_silent ["wasm"] 2 _ _
    [.wake, .answer tellsTwo, .answer holdsNone, .deliver] asleep rfl rfl
  exact ⟨_, _, asleep, rfl, rfl, rfl, rfl, silent rfl⟩

end Feed

end Settlement.Chain
