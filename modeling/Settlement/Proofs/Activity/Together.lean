import Mathlib.Logic.Relation
import Settlement.Proofs.Activity.Safety

/-!
Activities side by side. They all ask about one state and take turns in any order, the state
may change in between, and others may join at any time. An activity abides by a pact if all
its own steps do, as long as whatever else happens does as well.
-/

namespace Settlement

variable {σ γ ε δ α β : Type}

/-- One of the activities: what it was given or has been told, and what is left of it. -/
structure Party (γ ε α : Type) where
  memory : γ
  rest : Activity ε α

structure Scene (σ γ ε α : Type) where
  state : σ
  parties : List (Party γ ε α)

structure World (σ γ : Type) where
  answers : γ → Answering σ
  learn : γ → (request : Request) → request.Reply → γ
  /-- What may happen that is no answer to any of the activities. -/
  elsewhere : σ → σ → Prop

inductive World.Step (world : World σ γ) (joins : Party γ ε α → Prop) :
    Scene σ γ ε α → Scene σ γ ε α → Prop where
  | join {state : σ} {parties : List (Party γ ε α)} {party : Party γ ε α} :
      joins party → Step world joins ⟨state, parties⟩ ⟨state, party :: parties⟩
  | answer {first last : List (Party γ ε α)} {memory : γ} {request : Request}
      {next : request.Reply → Activity ε α} {before after : σ} {reply : request.Reply} :
      world.answers memory request before reply after →
      Step world joins ⟨before, first ++ ⟨memory, .ask request next⟩ :: last⟩
        ⟨after, first ++ ⟨world.learn memory request reply, next reply⟩ :: last⟩
  | elsewhere {before after : σ} {parties : List (Party γ ε α)} :
      world.elsewhere before after → Step world joins ⟨before, parties⟩ ⟨after, parties⟩

def World.Reaches (world : World σ γ) (joins : Party γ ε α → Prop) :
    Scene σ γ ε α → Scene σ γ ε α → Prop :=
  Relation.ReflTransGen (world.Step joins)

section Reaches

variable {world : World σ γ} {joins : Party γ ε α → Prop} {start : Scene σ γ ε α} {memory : γ}
  {request : Request} {next : request.Reply → Activity ε α} {before after : σ}
  {reply : request.Reply}

theorem World.Reaches.answer (first last : List (Party γ ε α))
    (reaches : world.Reaches joins start ⟨before, first ++ ⟨memory, .ask request next⟩ :: last⟩)
    (answered : world.answers memory request before reply after) :
    world.Reaches joins start
      ⟨after, first ++ ⟨world.learn memory request reply, next reply⟩ :: last⟩ :=
  reaches.tail (.answer answered)

theorem World.Reaches.only_answer
    (reaches : world.Reaches joins start ⟨before, [⟨memory, .ask request next⟩]⟩)
    (answered : world.answers memory request before reply after) :
    world.Reaches joins start ⟨after, [⟨world.learn memory request reply, next reply⟩]⟩ :=
  reaches.answer [] [] answered

theorem World.Reaches.elsewhere {parties : List (Party γ ε α)}
    (reaches : world.Reaches joins start ⟨before, parties⟩)
    (happened : world.elsewhere before after) : world.Reaches joins start ⟨after, parties⟩ :=
  reaches.tail (.elsewhere happened)

end Reaches

/-- What an activity promises for its own questions and may rely on for all that happens in
between. -/
structure Pact (world : World σ γ) where
  own : Request → σ → σ → Prop
  others : σ → σ → Prop
  refl : ∀ state, others state state
  trans : ∀ {first second third}, others first second → others second third → others first third
  own_others : ∀ {request before after}, own request before after → others before after
  elsewhere : ∀ {before after}, world.elsewhere before after → others before after

namespace Activity

variable {world : World σ γ} {pact : Pact world}

def Abides (pact : Pact world) (post : γ → Except ε α → σ → Prop) : Activity ε α → γ → σ → Prop
  | .done result, memory, state => ∀ between, pact.others state between →
      post memory result between
  | .ask request next, memory, state => ∀ between, pact.others state between →
      ∀ reply after, world.answers memory request between reply after →
        pact.own request between after ∧
          (next reply).Abides pact post (world.learn memory request reply) after

theorem Abides.later {post : γ → Except ε α → σ → Prop} {activity : Activity ε α} {memory : γ}
    {state after : σ} (abides : activity.Abides pact post memory state)
    (passed : pact.others state after) : activity.Abides pact post memory after := by
  cases activity with
  | done result =>
      intro between further
      exact abides between (pact.trans passed further)
  | ask request next =>
      intro between further
      exact abides between (pact.trans passed further)

/-- The postcondition may use that all states since the beginning are related to it. -/
theorem Abides.mono_since {post final : γ → Except ε α → σ → Prop} {activity : Activity ε α}
    {memory : γ} {start : σ} (abides : activity.Abides pact post memory start)
    (implies : ∀ memory result state, pact.others start state → post memory result state →
      final memory result state) : activity.Abides pact final memory start := by
  have whole : ∀ state, pact.others start state → activity.Abides pact post memory state →
      activity.Abides pact final memory state := by
    clear abides
    induction activity generalizing memory with
    | done result =>
        intro state since abides between passed
        exact implies memory result between (pact.trans since passed) (abides between passed)
    | ask request next ih =>
        intro state since abides between passed reply after answered
        obtain ⟨step, rest⟩ := abides between passed reply after answered
        have reached := pact.trans (pact.trans since passed) (pact.own_others step)
        exact ⟨step, ih reply after reached rest⟩
  exact whole start (pact.refl start) abides

theorem Abides.mono {post final : γ → Except ε α → σ → Prop} {activity : Activity ε α}
    {memory : γ} {state : σ} (abides : activity.Abides pact post memory state)
    (implies : ∀ memory result state, post memory result state → final memory result state) :
    activity.Abides pact final memory state :=
  abides.mono_since fun memory result state _ => implies memory result state

theorem Abides.bind {middle : γ → Except ε α → σ → Prop} {post : γ → Except ε β → σ → Prop}
    {first : Activity ε α} {next : α → Activity ε β} {memory : γ} {state : σ}
    (abides : first.Abides pact middle memory state)
    (succeeds : ∀ memory value state, middle memory (.ok value) state →
      (next value).Abides pact post memory state)
    (fails : ∀ memory failure state, middle memory (.error failure) state →
      post memory (.error failure) state) :
    (first >>= next).Abides pact post memory state := by
  change (first.bind next).Abides pact post memory state
  induction first generalizing memory state with
  | done result =>
      cases result with
      | ok value => exact succeeds memory value state (abides state (pact.refl state))
      | error failure =>
          intro between passed
          exact fails memory failure between (abides between passed)
  | ask request answer ih =>
      intro between passed reply after answered
      obtain ⟨step, rest⟩ := abides between passed reply after answered
      exact ⟨step, ih reply rest⟩

theorem Abides.attempt {middle : γ → Except ε α → σ → Prop} {post : γ → Except ε β → σ → Prop}
    {first : Activity ε α} {next : Except ε α → Activity ε β} {memory : γ} {state : σ}
    (abides : first.Abides pact middle memory state)
    (rest : ∀ memory result state, middle memory result state →
      (next result).Abides pact post memory state) :
    (first.attempt next).Abides pact post memory state := by
  induction first generalizing memory state with
  | done result => exact rest memory result state (abides state (pact.refl state))
  | ask request answer ih =>
      intro between passed reply after answered
      obtain ⟨step, remaining⟩ := abides between passed reply after answered
      exact ⟨step, ih reply remaining⟩

theorem Abides.mapFailure {post : γ → Except δ α → σ → Prop} {activity : Activity ε α}
    {memory : γ} {state : σ} (view : ε → δ)
    (abides : activity.Abides pact (fun memory result => post memory (result.mapError view))
      memory state) : (activity.mapFailure view).Abides pact post memory state := by
  induction activity generalizing memory state with
  | done result => cases result <;> exact abides
  | ask request next ih =>
      intro between passed reply after answered
      obtain ⟨step, rest⟩ := abides between passed reply after answered
      exact ⟨step, ih reply rest⟩

theorem Abides.discard {post : γ → Except ε Unit → σ → Prop} {activity : Activity ε α}
    {memory : γ} {state : σ}
    (abides : activity.Abides pact (fun memory result => post memory (result.map fun _ => ()))
      memory state) : Abides pact post (discard activity) memory state := by
  change (activity.bind fun _ => .done (.ok ())).Abides pact post memory state
  induction activity generalizing memory state with
  | done result => cases result <;> exact abides
  | ask request next ih =>
      intro between passed reply after answered
      obtain ⟨step, rest⟩ := abides between passed reply after answered
      exact ⟨step, ih reply rest⟩

end Activity

/-- If all that join and all that are there abide by a pact, then so does whatever is left of
them, and all that happens is as the pact has it for others. -/
theorem World.Reaches.abides {world : World σ γ} {joins : Party γ ε α → Prop} {pact : Pact world}
    {post : γ → Except ε α → σ → Prop} {start scene : Scene σ γ ε α}
    (joining : ∀ party, joins party → ∀ state, pact.others start.state state →
      party.rest.Abides pact post party.memory state)
    (initial : ∀ party ∈ start.parties, party.rest.Abides pact post party.memory start.state)
    (reaches : world.Reaches joins start scene) :
    pact.others start.state scene.state ∧
      ∀ party ∈ scene.parties, party.rest.Abides pact post party.memory scene.state := by
  -- What is carried is that all that happens is allowed to everybody who did not do it.
  induction reaches with
  | refl => exact ⟨pact.refl start.state, initial⟩
  | tail _ step ih =>
      obtain ⟨since, abides⟩ := ih
      cases step with
      | join begins =>
          constructor
          · exact since
          · intro party member
            rcases List.mem_cons.mp member with rfl | there
            · exact joining party begins _ since
            · exact abides party there
      | @answer first last memory request next before after reply answered =>
          have asking := abides ⟨memory, .ask request next⟩ (by simp)
          obtain ⟨own, rest⟩ := asking before (pact.refl before) reply after answered
          -- For all the others this answer is one of the things that happen elsewhere.
          have passed := pact.own_others own
          constructor
          · exact pact.trans since passed
          · intro party member
            rcases List.mem_append.mp member with there | there
            · exact (abides party (List.mem_append_left _ there)).later passed
            · rcases List.mem_cons.mp there with rfl | there
              · exact rest
              · exact (abides party (List.mem_append_right _
                  (List.mem_cons_of_mem _ there))).later passed
      | elsewhere happened =>
          have passed := pact.elsewhere happened
          constructor
          · exact pact.trans since passed
          · intro party member
            exact (abides party member).later passed

end Settlement
