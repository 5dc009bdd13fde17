import Settlement.Proofs.Chain.Views
import Settlement.Proofs.Ledger.Offering

/-!
What others put into a block. The consumer sees a batch through its height and its six views
only, so what changes no view changes no call and no table, whatever answers the calls.
-/

namespace Settlement

open Chain

/-- The same answers, with all calls so far beside the state. -/
def Activity.traced {σ : Type} (answers : Answering σ) : Answering (σ × List Request) :=
  fun request before reply after =>
    answers request before.1 reply after.1 ∧ after.2 = before.2 ++ [request]

theorem Activity.Run.called {σ ε α : Type} {answers : Answering σ} {again : Activity ε α → Prop}
    {program : Activity ε α} {start : σ × List Request} {request : Request}
    {next : request.Reply → Activity ε α} {before after : σ} {reply : request.Reply}
    {calls : List Request}
    (run : Run (traced answers) again program start (.ask request next) (before, calls))
    (answered : answers request before reply after) :
    Run (traced answers) again program start (next reply) (after, calls ++ [request]) :=
  run.answer ⟨answered, rfl⟩

namespace Consumer

open Activity

section Views

variable {settings : Settings} {batch other : Batch}

theorem handleBatch_congr (height : other.height = batch.height)
    (views : other.views settings.contract = batch.views settings.contract) :
    handleBatch settings other = handleBatch settings batch := by
  rw [Batch.views, Batch.views, Views.mk.injEq] at views
  obtain ⟨mints, burns, redemptions, transfers, migrations, markerTransfers⟩ := views
  simp only [handleBatch, handleEvents, observe, recordBlock, height, mints, burns, redemptions,
    transfers, migrations, markerTransfers]

/-- Events that belong to no view come and go and events get more attributes: every event still
has at most one entry in all views together and the views keep the order of the events, and the
handling of the batch makes the same calls and leaves the same tables whatever answers it. All
rows that it may offer to the ledger have the same keys and contents as before. -/
theorem foreign_events_have_no_influence
    (edits : Relation.ReflTransGen (Batch.Edit settings.contract) batch other) :
    (∀ event : Event, (event.views settings.contract).size ≤ 1) ∧
    other.views settings.contract = other.events.foldr
      (fun event later => event.views settings.contract ++ later) Views.empty ∧
    (∀ {σ : Type} (answers : Answering σ) (start : σ) (rest : Activity Failure Unit)
      (reached : σ × List Request),
      Run (traced answers) (fun _ => False) (handleBatch settings other) (start, []) rest reached ↔
        Run (traced answers) (fun _ => False) (handleBatch settings batch) (start, []) rest
          reached) ∧
    ∀ (account : String → Option Uuid) (time : Timestamp) (now : Nat → Timestamp),
      let rows (batch : Batch) := Ledger.offered time now 0 (Ledger.admittedBlock settings.ledger
        account (batch.mints settings.contract) (batch.transfers settings.contract)
        batch.markerTransfers)
      rows other = rows batch := by
  obtain ⟨height, views⟩ := views_edits edits
  refine ⟨size_views_le _, views_foldr _ _, ?_, ?_⟩
  · intro σ answers start rest reached
    rw [handleBatch_congr height views]
  · intro account time now rows
    rw [Batch.views, Batch.views, Views.mk.injEq] at views
    obtain ⟨mints, _, _, transfers, _, markerTransfers⟩ := views
    simp only [rows, mints, transfers, markerTransfers]

end Views

/-- It names two contracts, and the one that is followed second. -/
def forgedMint : Event where
  type := Event.contractType
  txHash := "T"
  height := 1
  attributes := [("_contract_address", "e"), ("_contract_address", "c"), ("action", "mint"),
    ("member_id", "y"), ("amount", "9"), ("withdraw_address", "y")]

def spamAttributes : List (String × String) := [("amount", "9"), ("to_address", "y")]

def crowdedTransfers : Batch where
  height := 1
  events := forgedMint ::
    Ledger.twoTransfers.events.modifyHead fun event => event.extended spamAttributes

theorem crowded : Relation.ReflTransGen (Batch.Edit "c") Ledger.twoTransfers crowdedTransfers := by
  have inserted : Batch.Edit "c" Ledger.twoTransfers
      ⟨1, [] ++ forgedMint :: Ledger.twoTransfers.events⟩ :=
    @Batch.Edit.insert "c" 1 [] _ forgedMint (by decide)
  have extended : Batch.Edit "c" ⟨1, [forgedMint] ++ Ledger.twoTransfers.events⟩
      crowdedTransfers :=
    @Batch.Edit.extend "c" 1 [forgedMint] _ _ spamAttributes (by decide)
  exact .tail (.single inserted) extended

def callsForTwo : List Request := [
  .storage (.registration "a"), .storage (.registration "x"), .storage (.registration "y"),
  .storage (.registration "x"), .block 1, .times,
  .storage (.append (Ledger.entriesFrom zeroStamp.time 0
    [⟨"T", 1, "y", some zeroStamp.id, "x", none, "2", "b", .transfer⟩]) zeroTimes)]

open Ledger in
theorem handled_twoTransfers : Run (traced (uneventful.steady 0)) (fun _ => False)
    (handleBatch fromGenesis twoTransfers) (oneLink, []) (.done (.ok ()))
    (recordedOnce, callsForTwo) := by
  have begun : Run (traced (uneventful.steady 0)) (fun _ => False)
    (handleBatch fromGenesis twoTransfers) (oneLink, []) _ _ := .begin
  have sender := begun.called (told "a" none rfl)
  have recipient := sender.called (told "x" none rfl)
  have other := recipient.called (told "y" (some (link "y"))
    (found_linked (by simp [oneLink, linked])))
  have others := other.called (told "x" none rfl)
  have timed := others.called (show uneventful.steady 0 (.block 1) _ _ _ from ⟨rfl, rfl⟩)
  have stamped := timed.called (show uneventful.steady 0 .times _ zeroTimes _ from rfl)
  exact stamped.called ⟨trivial, rfl⟩

/-- The mint of the other contract and the additional attributes change nothing. -/
theorem crowded_transfers_are_handled_alike :
    Relation.ReflTransGen (Batch.Edit fromGenesis.contract) Ledger.twoTransfers crowdedTransfers ∧
    Run (traced (Ledger.uneventful.steady 0)) (fun _ => False)
      (handleBatch fromGenesis crowdedTransfers) (Ledger.oneLink, []) (.done (.ok ()))
      (Ledger.recordedOnce, callsForTwo) := by
  obtain ⟨_, _, runs, _⟩ :=
    @foreign_events_have_no_influence fromGenesis Ledger.twoTransfers crowdedTransfers crowded
  exact ⟨crowded, (runs _ _ _ _).mpr handled_twoTransfers⟩

end Consumer

end Settlement
