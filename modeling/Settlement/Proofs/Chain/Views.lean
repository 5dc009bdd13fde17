import Mathlib.Logic.Relation
import Settlement.Chain.Event

/-!
What the six views have of the events of a block. They go through the events one by one, and no
event has an entry in two of them. An event that belongs to no view may come or go, and an event
may have more attributes behind those that are read, without a change in any view.
-/

namespace Settlement.Chain

structure Views where
  mints : List Mint
  burns : List Burn
  redemptions : List Redemption
  transfers : List Transfer
  migrations : List Migration
  markerTransfers : List MarkerTransfer
  deriving DecidableEq

namespace Views

def empty : Views := ⟨[], [], [], [], [], []⟩

def append (first second : Views) : Views where
  mints := first.mints ++ second.mints
  burns := first.burns ++ second.burns
  redemptions := first.redemptions ++ second.redemptions
  transfers := first.transfers ++ second.transfers
  migrations := first.migrations ++ second.migrations
  markerTransfers := first.markerTransfers ++ second.markerTransfers

instance : Append Views := ⟨append⟩

variable (views : Views)

def size : Nat :=
  views.mints.length + views.burns.length + views.redemptions.length + views.transfers.length +
    views.migrations.length + views.markerTransfers.length

theorem empty_append : empty ++ views = views := rfl

end Views

def Batch.views (batch : Batch) (contract : String) : Views where
  mints := batch.mints contract
  burns := batch.burns contract
  redemptions := batch.redemptions contract
  transfers := batch.transfers contract
  migrations := batch.migrations contract
  markerTransfers := batch.markerTransfers

def Event.views (event : Event) (contract : String) : Views :=
  Batch.views ⟨event.height, [event]⟩ contract

namespace Event

variable (contract : String) (event : Event)

/-- It is no marker transfer, no action of the contract and no migration of it. -/
def IsForeign : Prop :=
  event.type ≠ markerTransferType ∧ event.isOf contract migrationType = false ∧
    ∀ action ∈ ["mint", "burn", "redeem", "transfer"], event.isAction contract action = false

instance : Decidable (event.IsForeign contract) := inferInstanceAs (Decidable (_ ∧ _ ∧ _))

def actionKeys : String → List String
  | "mint" => ["member_id", "amount", "denom", "withdraw_denom", "withdraw_address"]
  | "burn" | "redeem" => ["member_id", "amount", "denom"]
  | "transfer" => ["sender", "recipient", "amount", "denom"]
  | _ => []

/-- The keys whose values the views look at in this event. -/
def keysRead : List String :=
  if event.type = markerTransferType then ["from_address", "to_address", "amount", "denom"]
  else if event.type = migrationType then
    "_contract_address" :: if event.isOf contract migrationType then ["code_id"] else []
  else if event.type = contractType then
    "_contract_address" ::
      if event.isOf contract contractType then "action" :: actionKeys (event.valueOf "action")
      else []
  else []

def extended (added : List (String × String)) : Event :=
  { event with attributes := event.attributes ++ added }

/-- A key that is read and that the event lacks is not among the new ones. -/
def Covers (added : List (String × String)) : Prop :=
  ∀ key ∈ event.keysRead contract,
    key ∈ event.attributes.map Prod.fst ∨ key ∉ added.map Prod.fst

instance (added : List (String × String)) : Decidable (event.Covers contract added) :=
  inferInstanceAs (Decidable (∀ key ∈ event.keysRead contract, _))

end Event

/-- One event that belongs to no view comes or goes, or one event gets more attributes. -/
inductive Batch.Edit (contract : String) : Batch → Batch → Prop where
  | insert {height : Nat} {before after : List Event} {event : Event}
      (foreign : event.IsForeign contract) :
      Edit contract ⟨height, before ++ after⟩ ⟨height, before ++ event :: after⟩
  | remove {height : Nat} {before after : List Event} {event : Event}
      (foreign : event.IsForeign contract) :
      Edit contract ⟨height, before ++ event :: after⟩ ⟨height, before ++ after⟩
  | extend {height : Nat} {before after : List Event} {event : Event}
      {added : List (String × String)} (covers : event.Covers contract added) :
      Edit contract ⟨height, before ++ event :: after⟩
        ⟨height, before ++ event.extended added :: after⟩

section Lists

variable {contract : String} {height : Nat}

theorem views_append (contract : String) (height : Nat) (first second : List Event) :
    Batch.views ⟨height, first ++ second⟩ contract =
      Batch.views ⟨height, first⟩ contract ++ Batch.views ⟨height, second⟩ contract := by
  change _ = Views.append _ _
  simp only [Batch.views, Batch.mints, Batch.burns, Batch.redemptions, Batch.transfers,
    Batch.migrations, Batch.markerTransfers, Batch.actions, List.filter_append, List.map_append,
    Views.append]

theorem views_cons (event : Event) (rest : List Event) :
    Batch.views ⟨height, event :: rest⟩ contract =
      event.views contract ++ Batch.views ⟨height, rest⟩ contract :=
  views_append contract height [event] rest

theorem views_foldr (batch : Batch) (contract : String) : batch.views contract =
    batch.events.foldr (fun event later => event.views contract ++ later) Views.empty := by
  obtain ⟨height, events⟩ := batch
  induction events with
  | nil => rfl
  | cons event rest ih => rw [views_cons, ih, List.foldr_cons]

end Lists

section One

variable {contract : String} {event : Event}

theorem isOf_iff {type : String} : event.isOf contract type = true ↔
    event.type = type ∧ event.valueOf "_contract_address" = contract := by
  simp only [Event.isOf, Bool.and_eq_true, decide_eq_true_eq]

theorem isAction_iff {action : String} : event.isAction contract action = true ↔
    event.isOf contract Event.contractType = true ∧ event.valueOf "action" = action := by
  simp only [Event.isAction, Bool.and_eq_true, decide_eq_true_eq]

theorem isOf_other {type other : String} (same : event.type = type) (apart : type ≠ other) :
    event.isOf contract other = false := by
  rw [← Bool.not_eq_true, isOf_iff, same]
  exact fun both => apart both.1

def entry {α : Type} (belongs : Bool) (value : α) : List α := if belongs then [value] else []

theorem views_single : event.views contract =
    { mints := entry (event.isAction contract "mint") event.mint
      burns := entry (event.isAction contract "burn") event.burn
      redemptions := entry (event.isAction contract "redeem") event.redemption
      transfers := entry (event.isAction contract "transfer") event.transfer
      migrations := entry (event.isOf contract Event.migrationType) event.migration
      markerTransfers :=
        entry (event.type = Event.markerTransferType) event.markerTransfer } := by
  have single : ∀ {α : Type} (chosen : Event → Bool) (view : Event → α),
      ([event].filter chosen).map view = entry (chosen event) (view event) := by
    intro α chosen view
    cases belongs : chosen event <;> simp [entry, belongs]
  simp only [Event.views, Batch.views, Batch.mints, Batch.burns, Batch.redemptions,
    Batch.transfers, Batch.migrations, Batch.markerTransfers, Batch.actions, single]

theorem length_entry {α : Type} (belongs : Bool) (value : α) :
    (entry belongs value).length = belongs.toNat := by
  cases belongs <;> rfl

theorem size_views_le (contract : String) (event : Event) : (event.views contract).size ≤ 1 := by
  have types : Event.contractType ≠ Event.migrationType ∧
      Event.contractType ≠ Event.markerTransferType ∧
      Event.migrationType ≠ Event.markerTransferType := by decide
  simp only [views_single, Views.size, length_entry]
  by_cases ours : event.isOf contract Event.contractType = true
  · -- Only the action is left to decide, and it is one text.
    have type := (isOf_iff.mp ours).1
    rw [isOf_other type types.1, type, decide_eq_false types.2.1]
    simp only [Event.isAction, ours, Bool.true_and, Bool.toNat_false, Nat.add_zero]
    by_cases mint : event.valueOf "action" = "mint"
    · simp [mint]
    by_cases burn : event.valueOf "action" = "burn"
    · simp [burn]
    by_cases redeem : event.valueOf "action" = "redeem"
    · simp [redeem]
    simp [mint, burn, redeem, Bool.toNat_le]
  · rw [Bool.not_eq_true] at ours
    simp only [Event.isAction, ours, Bool.false_and, Bool.toNat_false, Nat.zero_add]
    by_cases migrates : event.isOf contract Event.migrationType = true
    · rw [migrates, (isOf_iff.mp migrates).1, decide_eq_false types.2.2]
      decide
    · rw [Bool.not_eq_true] at migrates
      rw [migrates, Bool.toNat_false, Nat.zero_add]
      exact Bool.toNat_le _

theorem views_foreign (foreign : event.IsForeign contract) :
    event.views contract = Views.empty := by
  obtain ⟨marker, migrates, acts⟩ := foreign
  simp only [List.forall_mem_cons, List.not_mem_nil, false_implies, implies_true, and_true]
    at acts
  simp only [views_single, acts, migrates, decide_eq_false marker, entry]
  rfl

variable {added : List (String × String)}

theorem valueOf_extended {key : String}
    (covered : key ∈ event.attributes.map Prod.fst ∨ key ∉ added.map Prod.fst) :
    (event.extended added).valueOf key = event.valueOf key := by
  unfold Event.valueOf Event.extended
  rw [List.find?_append]
  cases found : event.attributes.find? fun entry => entry.1 = key with
  | some entry => rfl
  | none =>
      have absent : key ∉ event.attributes.map Prod.fst := by
        rw [List.find?_eq_none] at found
        rintro member
        obtain ⟨entry, there, rfl⟩ := List.mem_map.mp member
        exact found entry there (by simp)
      have missing : added.find? (fun entry => entry.1 = key) = none := by
        rw [List.find?_eq_none]
        intro entry there same
        exact covered.resolve_left absent (List.mem_map.mpr ⟨entry, there, by simpa using same⟩)
      rw [missing]
      rfl

theorem isOf_extended (covers : event.Covers contract added) {type : String}
    (read : event.type = type → "_contract_address" ∈ event.keysRead contract) :
    (event.extended added).isOf contract type = event.isOf contract type := by
  by_cases same : event.type = type
  · rw [Event.isOf, Event.isOf, valueOf_extended (covers _ (read same))]
    rfl
  · have extended : (event.extended added).isOf contract type = false :=
      isOf_other rfl same
    rw [extended, isOf_other rfl same]

theorem keysRead_marker (marker : event.type = Event.markerTransferType) :
    event.keysRead contract = ["from_address", "to_address", "amount", "denom"] := if_pos marker

theorem keysRead_migration (migrates : event.isOf contract Event.migrationType = true) :
    event.keysRead contract = ["_contract_address", "code_id"] := by
  have type := (isOf_iff.mp migrates).1
  have other : event.type ≠ Event.markerTransferType := by rw [type]; decide
  rw [Event.keysRead, if_neg other, if_pos type, if_pos migrates]

theorem keysRead_action (ours : event.isOf contract Event.contractType = true) :
    event.keysRead contract =
      "_contract_address" :: "action" :: Event.actionKeys (event.valueOf "action") := by
  have type := (isOf_iff.mp ours).1
  have other : event.type ≠ Event.markerTransferType := by rw [type]; decide
  have another : event.type ≠ Event.migrationType := by rw [type]; decide
  rw [Event.keysRead, if_neg other, if_neg another, if_pos type, if_pos ours]

theorem mem_keysRead {type : String}
    (kinds : type = Event.contractType ∨ type = Event.migrationType) (same : event.type = type) :
    "_contract_address" ∈ event.keysRead contract := by
  have other : event.type ≠ Event.markerTransferType := by
    rcases kinds with rfl | rfl <;> rw [same] <;> decide
  rw [Event.keysRead, if_neg other]
  rcases kinds with rfl | rfl
  · rw [if_neg (by rw [same]; decide), if_pos same]
    exact List.mem_cons_self
  · rw [if_pos same]
    exact List.mem_cons_self

theorem entry_congr {α : Type} {belongs : Bool} {first second : α}
    (same : belongs = true → first = second) : entry belongs first = entry belongs second := by
  cases belongs with
  | false => rfl
  | true => rw [same rfl]

theorem views_extended (covers : event.Covers contract added) :
    (event.extended added).views contract = event.views contract := by
  have value : ∀ {keys : List String}, event.keysRead contract = keys → ∀ key ∈ keys,
      (event.extended added).valueOf key = event.valueOf key := by
    rintro keys rfl key member
    exact valueOf_extended (covers key member)
  have ofContract := isOf_extended covers (mem_keysRead (.inl rfl))
  have ofMigration := isOf_extended covers (mem_keysRead (.inr rfl))
  have acts : ∀ action, (event.extended added).isAction contract action =
      event.isAction contract action := by
    intro action
    rw [Event.isAction, Event.isAction, ofContract]
    cases ours : event.isOf contract Event.contractType with
    | false => rfl
    | true => rw [value (keysRead_action ours) "action" (by simp)]
  have action : ∀ {action : String}, event.isAction contract action = true →
      ∀ key ∈ Event.actionKeys action,
        (event.extended added).valueOf key = event.valueOf key := by
    intro action isAction key member
    obtain ⟨ours, rfl⟩ := isAction_iff.mp isAction
    exact value (keysRead_action ours) key (by simp [member])
  -- The event belongs to the same views as before, and each looks only at keys that are covered.
  rw [views_single, views_single, ofMigration, acts, acts, acts, acts]
  congr 1 <;> refine entry_congr fun belongs => ?_
  case e_mints =>
    have same := action belongs
    simp only [Event.actionKeys, List.forall_mem_cons] at same
    simp only [Event.mint, same]
    rfl
  case e_burns =>
    have same := action belongs
    simp only [Event.actionKeys, List.forall_mem_cons] at same
    simp only [Event.burn, same]
    rfl
  case e_redemptions =>
    have same := action belongs
    simp only [Event.actionKeys, List.forall_mem_cons] at same
    simp only [Event.redemption, same]
    rfl
  case e_transfers =>
    have same := action belongs
    simp only [Event.actionKeys, List.forall_mem_cons] at same
    simp only [Event.transfer, same]
    rfl
  case e_migrations =>
    have same := value (keysRead_migration belongs)
    simp only [List.forall_mem_cons] at same
    simp only [Event.migration, same]
    rfl
  case e_markerTransfers =>
    have same := value (keysRead_marker (of_decide_eq_true belongs))
    simp only [List.forall_mem_cons] at same
    simp only [Event.markerTransfer, same]
    rfl

end One

section Edits

variable {contract : String} {batch other : Batch}

theorem views_without {height : Nat} {before after : List Event} {event : Event}
    (foreign : event.IsForeign contract) :
    Batch.views ⟨height, before ++ event :: after⟩ contract =
      Batch.views ⟨height, before ++ after⟩ contract := by
  rw [views_append, views_cons, views_foreign foreign, Views.empty_append, ← views_append]

theorem views_edit (edit : Batch.Edit contract batch other) :
    other.height = batch.height ∧ other.views contract = batch.views contract := by
  cases edit with
  | insert foreign => exact ⟨rfl, views_without foreign⟩
  | remove foreign => exact ⟨rfl, (views_without foreign).symm⟩
  | extend covers =>
      refine ⟨rfl, ?_⟩
      rw [views_append, views_cons, views_extended covers, ← views_cons, ← views_append]

theorem views_steps {step : Batch → Batch → Prop}
    (one : ∀ {batch other : Batch}, step batch other →
      other.height = batch.height ∧ other.views contract = batch.views contract)
    (steps : Relation.ReflTransGen step batch other) :
    other.height = batch.height ∧ other.views contract = batch.views contract := by
  induction steps with
  | refl => exact ⟨rfl, rfl⟩
  | tail _ step ih =>
      obtain ⟨height, views⟩ := one step
      exact ⟨height.trans ih.1, views.trans ih.2⟩

theorem views_edits (edits : Relation.ReflTransGen (Batch.Edit contract) batch other) :
    other.height = batch.height ∧ other.views contract = batch.views contract :=
  views_steps views_edit edits

end Edits

end Settlement.Chain
