import Settlement.Proofs.Consumer.ForeignEvents
import Settlement.Proofs.Text.JsonString

/-!
Quotes around the values of marker transfers. A value that is one JSON string is shown as the text
that it denotes, and every other value as it stands. A bare value may therefore be put in quotes, in
whatever spelling, without a change in what is shown, called and stored.
-/

namespace Settlement

namespace Chain

open Text.JsonString

/-- What a value is shown as: the text that it denotes, or the value itself if it denotes none. -/
def Event.Shows (value text : String) : Prop :=
  Denotes value text ∨ (∀ other, ¬ Denotes value other) ∧ text = value

def MarkerTransfer.fields (entry : MarkerTransfer) : List (String × String) :=
  [("from_address", entry.fromAddress), ("to_address", entry.toAddress), ("amount", entry.amount),
    ("denom", entry.denom)]

/-- One bare value of a marker transfer is replaced by a string that denotes it. -/
inductive Event.Quoting : Event → Event → Prop where
  | quote {txHash : String} {height : Nat} {before after : List (String × String)}
      {key bare quoted : String} (unopened : bare.toList.head? ≠ some '"')
      (denotes : Denotes quoted bare) :
      Quoting ⟨markerTransferType, txHash, height, before ++ (key, bare) :: after⟩
        ⟨markerTransferType, txHash, height, before ++ (key, quoted) :: after⟩

inductive Batch.Quoting : Batch → Batch → Prop where
  | event {height : Nat} {before after : List Event} {bare quoted : Event}
      (quoting : bare.Quoting quoted) :
      Quoting ⟨height, before ++ bare :: after⟩ ⟨height, before ++ quoted :: after⟩

section Values

variable {value text : String}

theorem unquoted_of_denotes (denotes : Denotes value text) : Event.unquoted value = text := by
  rw [Event.unquoted, if_pos denotes.opens, (decode?_eq_some_iff denotes.opens).mpr denotes]
  rfl

theorem unquoted_of_not_denotes (bare : ∀ text, ¬ Denotes value text) :
    Event.unquoted value = value := by
  unfold Event.unquoted
  split
  · rename_i opens
    have unread : decode? value = none := by
      rw [Option.eq_none_iff_forall_ne_some]
      exact fun text told => bare text ((decode?_eq_some_iff opens).mp told)
    rw [unread]
    rfl
  · rfl

theorem unquoted_of_bare (bare : value.toList.head? ≠ some '"') : Event.unquoted value = value :=
  if_neg bare

theorem unquoted_eq_iff : Event.unquoted value = text ↔ Event.Shows value text := by
  by_cases string : ∃ other, Denotes value other
  · obtain ⟨other, denotes⟩ := string
    rw [unquoted_of_denotes denotes]
    constructor
    · rintro rfl
      exact .inl denotes
    · rintro (same | ⟨none, _⟩)
      · exact denotes.unique same
      · exact absurd denotes (none other)
  · have none : ∀ other, ¬ Denotes value other := not_exists.mp string
    rw [unquoted_of_not_denotes none]
    constructor
    · rintro rfl
      exact .inr ⟨none, rfl⟩
    · rintro (denotes | ⟨_, same⟩)
      · exact absurd denotes (none text)
      · exact same.symm

end Values

section Events

variable {contract : String} {bare quoted : Event}

theorem unquoted_valueOf (quoting : bare.Quoting quoted) (key : String) :
    Event.unquoted (quoted.valueOf key) = Event.unquoted (bare.valueOf key) := by
  obtain @⟨_, _, before, after, changed, text, value, unopened, denotes⟩ := quoting
  unfold Event.valueOf
  dsimp only
  rw [List.find?_append, List.find?_append]
  cases before.find? fun entry => entry.1 = key with
  | some entry => rfl
  | none =>
      -- The changed value is the one that is read, unless its key is another.
      by_cases same : changed = key
      · simp [same, unquoted_of_denotes denotes, unquoted_of_bare unopened]
      · simp [same]

theorem views_quoting (quoting : bare.Quoting quoted) :
    quoted.views contract = bare.views contract := by
  have value := unquoted_valueOf quoting
  cases quoting with
  | quote =>
      have other : ∀ {event : Event}, event.type = Event.markerTransferType →
          event.isOf contract Event.contractType = false ∧
            event.isOf contract Event.migrationType = false :=
        fun marker => ⟨isOf_other marker (by decide), isOf_other marker (by decide)⟩
      simp only [views_single, Event.isAction, other, Event.markerTransfer, value, entry]
      rfl

end Events

section Batches

variable {contract : String} {batch other : Batch}

theorem views_quoted (quoting : Batch.Quoting batch other) :
    other.height = batch.height ∧ other.views contract = batch.views contract := by
  cases quoting with
  | event quoting =>
      refine ⟨rfl, ?_⟩
      rw [views_append, views_cons, views_quoting quoting, ← views_cons, ← views_append]

theorem views_quotings (quotings : Relation.ReflTransGen Batch.Quoting batch other) :
    other.height = batch.height ∧ other.views contract = batch.views contract :=
  views_steps views_quoted quotings

end Batches

end Chain

namespace Consumer

open Chain Activity

/-- Bare values of marker transfers are put in quotes, however these spell them: the marker
transfers are the same as before, and with every setting the ledger and the whole batch are handled
by the same calls, with the same rows to offer. Every entry shows what its values denote, and a
value that denotes nothing, or that does not even open with a quote, as it stands. -/
theorem quotes_have_no_influence {batch other : Batch}
    (quotings : Relation.ReflTransGen Batch.Quoting batch other) :
    other.markerTransfers = batch.markerTransfers ∧
    (∀ (settings : Settings) (height : Nat),
      recordBlock settings height other = recordBlock settings height batch ∧
      handleBatch settings other = handleBatch settings batch ∧
      ∀ (account : String → Option Uuid) (time : Timestamp) (now : Nat → Timestamp),
        let rows (batch : Batch) := Ledger.offered time now 0 (Ledger.admittedBlock settings.ledger
          account (batch.mints settings.contract) (batch.transfers settings.contract)
          batch.markerTransfers)
        rows other = rows batch) ∧
    ∀ (event : Event), ∀ field ∈ event.markerTransfer.fields,
      Event.Shows (event.valueOf field.1) field.2 ∧
      ((event.valueOf field.1).toList.head? ≠ some '"' → field.2 = event.valueOf field.1) := by
  refine ⟨?_, ?_, ?_⟩
  · exact congrArg Views.markerTransfers (@views_quotings "" _ _ quotings).2
  · intro settings height
    obtain ⟨same, views⟩ := @views_quotings settings.contract _ _ quotings
    refine ⟨?_, handleBatch_congr same views, ?_⟩
    all_goals
      rw [Batch.views, Batch.views, Views.mk.injEq] at views
      obtain ⟨mints, _, _, transfers, _, markerTransfers⟩ := views
    · simp only [recordBlock, mints, transfers, markerTransfers]
    · intro account time now rows
      simp only [rows, mints, transfers, markerTransfers]
  · intro event field member
    have unquoted : Event.unquoted (event.valueOf field.1) = field.2 := by
      simp only [MarkerTransfer.fields, List.mem_cons, List.not_mem_nil, or_false] at member
      obtain rfl | rfl | rfl | rfl := member <;> rfl
    exact ⟨unquoted_eq_iff.mp unquoted, fun bare => unquoted.symm.trans (unquoted_of_bare bare)⟩

/-- The second sender by its code with a line break behind it, and its amount in plain quotes. -/
def quotedTransfers : Batch where
  height := 1
  events := [
    ⟨Event.markerTransferType, "T", 1,
      [("from_address", "a"), ("to_address", "x"), ("amount", "1"), ("denom", "b")]⟩,
    ⟨Event.markerTransferType, "T", 1,
      [("from_address", "\"\\u0079\"\n"), ("to_address", "x"), ("amount", "\"2\""),
        ("denom", "b")]⟩]

open Text.JsonString in
theorem quoted : Relation.ReflTransGen Batch.Quoting Ledger.twoTransfers quotedTransfers := by
  have byCode : Denotes "\"\\u0079\"\n" "y" :=
    ⟨['\\', 'u', '0', '0', '7', '9'], ['\n'], by decide, by simp,
      .cons (.code (unit?_eq_some_iff.mp rfl)) .nil⟩
  have plain : Denotes "\"2\"" "2" := denotes_encode "2"
  have sender : Batch.Quoting Ledger.twoTransfers _ :=
    @Batch.Quoting.event 1 [_] [] _ _ (@Event.Quoting.quote "T" 1 [] _ _ _ _ (by decide) byCode)
  have amount : Batch.Quoting _ quotedTransfers :=
    @Batch.Quoting.event 1 [_] [] _ _
      (@Event.Quoting.quote "T" 1 [_, _] _ _ _ _ (by decide) plain)
  exact .tail (.single sender) amount

/-- The transfer of the linked address is recorded all the same. -/
theorem quoted_transfers_are_handled_alike :
    Relation.ReflTransGen Batch.Quoting Ledger.twoTransfers quotedTransfers ∧
    Run (traced (Ledger.uneventful.steady 0)) (fun _ => False)
      (handleBatch fromGenesis quotedTransfers) (Ledger.oneLink, []) (.done (.ok ()))
      (Ledger.recordedOnce, callsForTwo) := by
  obtain ⟨_, alike, _⟩ := quotes_have_no_influence quoted
  rw [(alike fromGenesis 1).2.1]
  exact ⟨quoted, handled_twoTransfers⟩

end Consumer

end Settlement
