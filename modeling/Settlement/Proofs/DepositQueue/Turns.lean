import Settlement.Proofs.DepositQueue.Attempts
import Settlement.Proofs.Consumer.Events

/-!
What the queue may do to the tables, however many workers it has, whatever they are told and
however far they get. It changes the deposits row by row and leaves all other tables alone.
-/

namespace Settlement

namespace Activity

variable {ε α : Type}

/-- The question comes up if the replies before it are right for it. -/
def MayAsk (wanted : Request) : Activity ε α → Prop
  | .done _ => False
  | .ask request next => request = wanted ∨ ∃ reply, (next reply).MayAsk wanted

theorem Asks.attempt {β : Type} {within : Request → Prop} {first : Activity ε α}
    {next : Except ε α → Activity ε β} (asks : first.Asks within)
    (rest : ∀ result, (next result).Asks within) : (first.attempt next).Asks within := by
  induction first with
  | done result => exact rest result
  | ask request answer ih => exact ⟨asks.1, fun reply => ih reply (asks.2 reply)⟩

theorem Asks.mayAsk {within : Request → Prop} {activity : Activity ε α} {wanted : Request}
    (asks : activity.Asks within) (may : activity.MayAsk wanted) : within wanted := by
  induction activity with
  | done result => exact may.elim
  | ask request next ih =>
      rcases may with rfl | ⟨reply, later⟩
      · exact asks.1
      · exact ih reply (asks.2 reply) later

end Activity

namespace DepositQueue

open Activity

def Queries : Request → Prop
  | .storage (.pending _) | .storage (.claim ..) | .storage (.advance ..) |
    .storage (.release _) | .storage (.activeRegistration _) => True
  | .clock | .stamp | .notifyBank _ => True
  | _ => False

theorem asks_load : load.Asks Queries :=
  ⟨trivial, fun _ => asks_storage trivial⟩

theorem asks_notifyBank (id : Uuid) (address amount : String) :
    (notifyBank id address amount).Asks Queries := by
  have resolves : (Directory.resolveActive address).Asks Queries := by
    unfold Directory.resolveActive
    split
    · trivial
    · exact (asks_storage trivial).bind fun _ => trivial
  refine (resolves.mapFailure Failure.storage).bind fun found => ?_
  cases found with
  | none => trivial
  | some account =>
      refine ⟨trivial, fun reply => ?_⟩
      cases reply <;> trivial

theorem asks_proceed (id : Uuid) (granted : Option Store.Deposit) :
    (proceed id granted).Asks Queries := by
  cases granted with
  | none => trivial
  | some deposit =>
      refine (asks_notifyBank id deposit.fromAddress deposit.amount).attempt fun outcome => ?_
      cases outcome with
      | error failure => exact (asks_storage trivial).bind fun _ => trivial
      | ok _ => exact ⟨trivial, fun stamp => (asks_storage trivial).bind fun _ => trivial⟩

theorem asks_process (ttl : Span) (id : Uuid) : (process ttl id).Asks Queries := by
  rw [process_asks]
  refine ⟨trivial, fun now => ?_⟩
  dsimp only
  cases claimEnd? now ttl with
  | none => trivial
  | some limit =>
      have claims : (storage (.claim id now limit)).Asks Queries := asks_storage trivial
      exact claims.bind (asks_proceed id)

/-- A storage call that a worker makes at some time, with what it does then. -/
def Turn (before after : Store) : Prop :=
  ∃ statement : Store.Statement,
    (load.MayAsk (.storage statement) ∨
      ∃ ttl id, (process ttl id).MayAsk (.storage statement)) ∧
    statement.Ran before after

section Turn

variable {before after : Store}

theorem Turn.revises (turn : Turn before after) : ∃ statement : Store.Statement,
    after = before ∨
      after = { before with deposits := before.deposits.map statement.revise } := by
  obtain ⟨statement, asked, rfl | ⟨_, rfl⟩⟩ := turn
  · exact ⟨statement, .inl rfl⟩
  · have query : Queries (.storage statement) := by
      rcases asked with loads | ⟨ttl, id, processes⟩
      · exact asks_load.mayAsk loads
      · exact (asks_process ttl id).mayAsk processes
    refine ⟨statement, ?_⟩
    cases statement with
    | pending | activeRegistration => exact .inl rfl
    | claim | advance | release => exact .inr rfl
    | _ => exact query.elim

theorem Turn.lasts (identified : Store.Identified before.tracked) (turn : Turn before after) :
    Store.Lasts before after := by
  obtain ⟨statement, _, ran⟩ := turn
  exact ran.lasts identified

theorem Turn.missing {settings : Consumer.Settings} {observed : Consumer.Observed}
    (turn : Turn before after) (missing : Consumer.Missing settings observed before) :
    Consumer.Missing settings observed after := by
  obtain ⟨statement, rfl | rfl⟩ := turn.revises
  · exact missing
  · obtain ⟨untracked, absent⟩ := missing
    refine ⟨untracked, ?_⟩
    cases observed with
    | migration migration => exact absent
    | other txHash => exact absent
    | transfer transfer =>
        have none_has := Store.readOptional_none absent.2
        have none_found : (before.deposits.map statement.revise).find?
            (fun row => row.txHash = transfer.txHash) = none := by
          apply List.find?_eq_none.mpr
          intro row member
          obtain ⟨old, there, rfl⟩ := List.mem_map.mp member
          simpa [Store.revise_txHash] using none_has old there
        refine ⟨absent.1, ?_⟩
        rw [Store.findDeposit, none_found]
        rfl

end Turn

end DepositQueue

end Settlement
