import Settlement.Proofs.Ledger.Recording

/-!
What the handling of whole batches does among others that use the same tables. `Delivered` is
what holds for good after a batch was handled, `Refused` is what else may end its handling.
-/

namespace Settlement.Consumer

open Activity
open Store (Lasts Identified)

theorem abides_forEach {γ ι : Type} {world : World Store γ} {pact : Pact world} {start : Store}
    {handle : ι → Activity Failure Unit} {items : List ι} {done : ι → Store → Prop}
    {fails : Store → Prop}
    (stays : ∀ item before after, pact.others start before → pact.others before after →
      done item before → done item after)
    (one : ∀ earlier item later, items = earlier ++ item :: later → ∀ memory state,
      pact.others start state → (∀ other ∈ earlier, done other state) →
      (handle item).Abides pact (fun _ result store =>
        match result with
        | .ok _ => done item store
        | .error _ => fails store) memory state) (memory : γ) :
    (forEach handle items).Abides pact (fun _ result store =>
      match result with
      | .ok _ => ∀ item ∈ items, done item store
      | .error _ => fails store) memory start := by
  -- Each item is handled after the ones before it are done, and done they stay.
  have rest : ∀ later earlier, items = earlier ++ later → ∀ memory state,
      pact.others start state → (∀ other ∈ earlier, done other state) →
      (forEach handle later).Abides pact (fun _ result store =>
        match result with
        | .ok _ => ∀ item ∈ items, done item store
        | .error _ => fails store) memory state := by
    intro later
    induction later with
    | nil =>
        intro earlier all memory state since before between passed item member
        rw [all, List.append_nil] at member
        exact stays item state between since passed (before item member)
    | cons item later ih =>
        intro earlier all memory state since before
        have first := (one earlier item later all memory state since before).mono_since
          fun _ _ store passed ended => And.intro passed ended
        refine first.bind ?_ ?_
        · rintro memory value store ⟨passed, finished⟩
          refine ih (earlier ++ [item]) (by simp [all]) memory store (pact.trans since passed) ?_
          intro other member
          rcases List.mem_append.mp member with there | last
          · exact stays other state store since passed (before other there)
          · obtain rfl := List.mem_singleton.mp last
            exact finished
        · rintro memory failure store ⟨_, ended⟩
          exact ended
  exact rest items [] rfl memory start (pact.refl start) (by simp)

section Delivered

variable (settings : Settings) (history : History) (batch : Chain.Batch)

def Settings.observed : List Observed :=
  observe settings.contract batch (batch.transfers settings.contract)

/-- Nothing is left to be done about the batch. -/
structure Delivered (store : Store) : Prop where
  events : ∀ observed ∈ settings.observed batch, Handled settings history observed store
  movements : Recorded settings history batch store

def Due (observed : Observed) (store : Store) : Prop :=
  ∃ earlier later, settings.observed batch = earlier ++ observed :: later ∧
    ∀ other ∈ earlier, Handled settings history other store

/-- What the tables have against the handling of a batch. -/
def Refused (store : Store) : Prop :=
  Unrecordable settings history batch store ∨
    ∃ observed, Due settings history batch observed store ∧
      Blocked settings history observed store

def Conducted (answers : Answering Store) {γ : Type} {world : World Store γ} (pact : Pact world)
    (start : Store) (request : Request) (before after : Store) : Prop :=
  ∃ here, pact.others start here ∧ pact.others here before ∧
    (Entered settings history batch here request before after ∨
      ∃ observed, Due settings history batch observed here ∧
        Effect settings history answers pact observed here request before after)

end Delivered

section Batches

variable {settings : Settings} {history : History} {answers : Answering Store}
  {elsewhere : Store → Store → Prop} {γ : Type} {disturbed : Prop} {batch : Chain.Batch}

theorem Due.mem {observed : Observed} {store : Store}
    (due : Due settings history batch observed store) : observed ∈ settings.observed batch := by
  obtain ⟨earlier, later, all, _⟩ := due
  simp [all]

theorem Due.lasts {observed : Observed} {before after : Store}
    (due : Due settings history batch observed before) (lasts : Lasts before after) :
    Due settings history batch observed after := by
  obtain ⟨earlier, later, all, handled⟩ := due
  exact ⟨earlier, later, all, fun other member => (handled other member).lasts lasts⟩

theorem Delivered.lasts {before after : Store} (delivered : Delivered settings history batch before)
    (lasts : Lasts before after) : Delivered settings history batch after where
  events observed member := (delivered.events observed member).lasts lasts
  movements := delivered.movements.lasts lasts

theorem Delivered.not_refused {store : Store}
    (delivered : Delivered settings history batch store) :
    ¬ Refused settings history batch store := by
  rintro (unrecordable | ⟨observed, due, blocked⟩)
  · exact delivered.movements.not_unrecordable rfl unrecordable
  · exact (delivered.events observed due.mem).not_blocked blocked

theorem Conducted.lasts {world : World Store γ} {pact : Pact world} {start before after : Store}
    {request : Request}
    (conducted : Conducted settings history batch answers pact start request before after)
    (identified : Identified before.tracked) : Lasts before after := by
  obtain ⟨_, _, _, entered | ⟨observed, _, effect⟩⟩ := conducted
  · exact entered.lasts identified
  · exact effect.lasts identified

variable (manners : Manners history answers disturbed)
  {pact : Pact (World.shared γ answers elsewhere)}
  (lasts : ∀ {before after}, Identified before.tracked → pact.others before after →
    Lasts before after)
  {start : Store} (identified : Identified start.tracked)

include manners lasts identified

theorem abides_handleEvents
    (allows : ∀ request before after, pact.others start before →
      Conducted settings history batch answers pact start request before after →
      pact.own request before after) (memory : γ) :
    (handleEvents settings batch (batch.transfers settings.contract)).Abides pact
      (fun _ result store =>
        match result with
        | .ok _ => ∀ observed ∈ settings.observed batch, Handled settings history observed store
        | .error _ => disturbed ∨ ∃ observed, Since pact start (fun store =>
            Due settings history batch observed store ∧ Blocked settings history observed store)
              store) memory start := by
  have known : ∀ {store}, pact.others start store → Identified store.tracked :=
    fun since => identified.lasts (lasts identified since)
  refine abides_forEach ?_ ?_ memory
  · intro observed before after since passed handled
    exact handled.lasts (lasts (known since) passed)
  · intro earlier observed later all memory state since handled
    have due : Due settings history batch observed state := ⟨earlier, later, all, handled⟩
    have handles := abides_handleObserved manners lasts (known since)
      (fun request before after passed effect => allows request before after
        (pact.trans since passed) ⟨state, since, passed, .inr ⟨observed, due, effect⟩⟩) memory
    refine handles.mono fun memory result store outcome => ?_
    cases result with
    | ok value => exact outcome
    | error failure =>
        rcases outcome with cause | ⟨earlier, sinceEarlier, passed, blocked⟩
        · exact .inl cause
        · exact .inr ⟨observed, earlier, pact.trans since sinceEarlier, passed,
            due.lasts (lasts (known since) sinceEarlier), blocked⟩

theorem abides_handleBatch
    (allows : ∀ request before after, pact.others start before →
      Conducted settings history batch answers pact start request before after →
      pact.own request before after) (memory : γ) :
    (handleBatch settings batch).Abides pact (fun _ result store =>
      match result with
      | .ok _ => Delivered settings history batch store
      | .error _ => disturbed ∨ Since pact start (Refused settings history batch) store)
      memory start := by
  have known : ∀ {store}, pact.others start store → Identified store.tracked :=
    fun since => identified.lasts (lasts identified since)
  have events := (abides_handleEvents manners lasts identified allows memory).mono_since
    fun _ _ store since ended => And.intro since ended
  refine events.bind ?_ ?_
  · rintro memory value state ⟨since, handled⟩
    apply Abides.discard
    have records := (abides_recordBlock manners lasts (known since)
      (fun request before after passed entered => allows request before after
        (pact.trans since passed) ⟨state, since, passed, .inl entered⟩) memory).mono_since
      fun _ _ store passed ended => And.intro passed ended
    refine records.mono ?_
    rintro memory result store ⟨passed, ended⟩
    cases result with
    | ok count =>
        have kept := lasts (known since) passed
        exact ⟨fun observed member => (handled observed member).lasts kept, ended.1⟩
    | error failure =>
        exact ended.imp_right fun unrecordable => ⟨state, since, passed, .inl unrecordable⟩
  · rintro memory failure store ⟨_, ended⟩
    exact ended.imp_right fun ⟨observed, earlier, since, passed, stuck⟩ =>
      ⟨earlier, since, passed, .inr ⟨observed, stuck⟩⟩

theorem abides_handleBatches {batches : List Chain.Batch}
    (allows : ∀ batch ∈ batches, ∀ request before after, pact.others start before →
      Conducted settings history batch answers pact start request before after →
      pact.own request before after) (memory : γ) :
    (forEach (handleBatch settings) batches).Abides pact (fun _ result store =>
      match result with
      | .ok _ => ∀ batch ∈ batches, Delivered settings history batch store
      | .error _ => disturbed ∨
          ∃ batch ∈ batches, Since pact start (Refused settings history batch) store)
      memory start := by
  have known : ∀ {store}, pact.others start store → Identified store.tracked :=
    fun since => identified.lasts (lasts identified since)
  refine abides_forEach ?_ ?_ memory
  · intro batch before after since passed delivered
    exact delivered.lasts (lasts (known since) passed)
  · intro earlier batch later all memory state since _
    have member : batch ∈ batches := by simp [all]
    have handles := abides_handleBatch manners lasts (known since)
      (fun request before after passed ⟨here, sinceHere, toBefore, conducted⟩ =>
        allows batch member request before after (pact.trans since passed)
          ⟨here, pact.trans since sinceHere, toBefore, conducted⟩) memory
    refine handles.mono fun memory result store ended => ?_
    cases result with
    | ok value => exact ended
    | error failure =>
        rcases ended with cause | ⟨earlier, sinceEarlier, passed, refused⟩
        · exact .inl cause
        · exact .inr ⟨batch, member, earlier, pact.trans since sinceEarlier, passed, refused⟩

end Batches

theorem manners_steady (history : History) (last : Nat) :
    Manners history (history.steady last) False where
  within := history.answers_steady last
  storage answered := .inr (by rw [answered.2])
  transaction answered := by cases answered.2
  block answered := by cases answered.2

/-! A transfer that goes on to the bank, and a chain that confirms everything. -/

def bankBound : Chain.Batch where
  height := 1
  events := [⟨Chain.Event.contractType, "T", 1, [("_contract_address", "c"), ("action", "transfer"),
    ("sender", "a"), ("recipient", "m"), ("amount", "5"), ("denom", "d")]⟩]

def approving : History where
  batch height := ⟨height, bankBound.events⟩
  batch_height _ := rfl
  transaction txHash := some ⟨txHash, 1, 0, ""⟩
  block height := ⟨height, zeroStamp.time⟩

end Settlement.Consumer
