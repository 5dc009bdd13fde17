import Settlement.Chain.Reader
import Settlement.Proofs.Text.Base64
import Settlement.Proofs.Text.Hex

/-!
What the node is asked when a transaction is looked up. A text is a hash if it is an even number
of hex digits behind any number of marks, and then the one call made for it names the octets of
these digits. For any other text there is no call. Two hashes lead to the same call if and only if
their digits are the same apart from case.
-/

namespace Settlement.Chain.Reader

open Text

variable {text : List Char} {txHash other : String} {octets : List UInt8} {call : Rpc.Call}

theorem marks_unmarked (text : List Char) :
    ∃ marks, text = (List.replicate marks ['0', 'x']).flatten ++ unmarked text := by
  fun_induction unmarked text with
  | case1 rest ih =>
      obtain ⟨marks, split⟩ := ih
      refine ⟨marks + 1, ?_⟩
      rw [List.replicate_succ, List.flatten_cons, List.append_assoc, ← split]
      rfl
  | case2 text => exact ⟨0, rfl⟩

theorem not_mark_unmarked (text : List Char) : ¬ ['0', 'x'] <+: unmarked text := by
  fun_induction unmarked text with
  | case1 rest ih => exact ih
  | case2 text bare =>
      rintro ⟨rest, whole⟩
      exact bare rest whole.symm

def callFor (octets : List UInt8) : Rpc.Call :=
  ⟨"tx", [("hash", .string (String.ofList (Base64.encode octets))), ("prove", .boolean false)]⟩

theorem callFor_inj {others : List UInt8} : callFor octets = callFor others ↔ octets = others := by
  constructor
  · intro same
    simp only [callFor, Rpc.Call.mk.injEq, List.cons.injEq, Prod.mk.injEq, Json.string.injEq,
      true_and, and_true, String.ofList_inj] at same
    exact Base64.encode_injective same
  · exact congrArg callFor

theorem transactionCall_eq_ok_iff : transactionCall txHash = .ok call ↔
    ∃ octets, Hex.Writes octets (unmarked txHash.toList) ∧ callFor octets = call := by
  simp only [← Hex.decode_eq_ok_iff, transactionCall]
  cases Hex.decode (unmarked txHash.toList) with
  | ok octets => simp [callFor]
  | error fault => simp

theorem malformed_of_error {failure : Failure} (refused : transactionCall txHash = .error failure) :
    ∃ fault, failure = .malformed ("invalid tx hash " ++ txHash ++ ": " ++ describe fault) := by
  unfold transactionCall at refused
  split at refused <;> cases refused
  exact ⟨_, rfl⟩

/-- Behind all marks there is an even number of hex digits of either case. -/
def IsHash (txHash : String) : Prop :=
  2 ∣ (unmarked txHash.toList).length ∧ ∀ c ∈ unmarked txHash.toList, Hex.IsDigit c

theorem exists_call_iff : (∃ call, transactionCall txHash = .ok call) ↔ IsHash txHash := by
  simp only [transactionCall_eq_ok_iff]
  constructor
  · rintro ⟨_, octets, writes, _⟩
    exact Hex.exists_writes_iff.mp ⟨octets, writes⟩
  · intro hash
    obtain ⟨octets, writes⟩ := Hex.exists_writes_iff.mpr hash
    exact ⟨_, octets, writes, rfl⟩

theorem same_call_iff {others : Rpc.Call} (first : transactionCall txHash = .ok call)
    (second : transactionCall other = .ok others) : call = others ↔
      (unmarked txHash.toList).map Char.toLower = (unmarked other.toList).map Char.toLower := by
  obtain ⟨octets, writes, rfl⟩ := transactionCall_eq_ok_iff.mp first
  obtain ⟨_, otherWrites, rfl⟩ := transactionCall_eq_ok_iff.mp second
  exact callFor_inj.trans (writes.same_iff otherWrites)

/-- Whatever the text is: behind all of its marks stands what must be digits. If it is a hash, the
node is asked for the transaction of the octets that these digits denote, whatever their number,
and what it answers to that is the answer; otherwise the text is refused, whatever the node might
answer. Two hashes ask for the same if and only if they are the same but for marks and case. -/
theorem lookup_asks_for_the_octets (txHash other : String) :
    ((∃ marks, txHash.toList = (List.replicate marks ['0', 'x']).flatten ++
        unmarked txHash.toList) ∧ ¬ ['0', 'x'] <+: unmarked txHash.toList) ∧
    ((∃ call, transactionCall txHash = .ok call) ↔ IsHash txHash) ∧
    (∀ call, transactionCall txHash = .ok call →
      (∀ answer, fetchTransaction answer txHash = transaction (answer call)) ∧
      ∃ text octets, call = ⟨"tx", [("hash", .string text), ("prove", .boolean false)]⟩ ∧
        Base64.decode? text.toList = some octets ∧
        Hex.Writes octets (unmarked txHash.toList)) ∧
    (∀ call others, transactionCall txHash = .ok call → transactionCall other = .ok others →
      (call = others ↔ (unmarked txHash.toList).map Char.toLower =
        (unmarked other.toList).map Char.toLower)) ∧
    (¬ IsHash txHash → ∃ fault, ∀ answer, fetchTransaction answer txHash =
      .error (.malformed ("invalid tx hash " ++ txHash ++ ": " ++ describe fault))) := by
  refine ⟨⟨marks_unmarked _, not_mark_unmarked _⟩, exists_call_iff, ?_, ?_, ?_⟩
  · intro call asked
    refine ⟨fun answer => by rw [fetchTransaction, asked]; rfl, ?_⟩
    obtain ⟨octets, writes, rfl⟩ := transactionCall_eq_ok_iff.mp asked
    refine ⟨_, octets, rfl, ?_, writes⟩
    rw [String.toList_ofList]
    exact Base64.decode?_encode octets
  · intro call others first second
    exact same_call_iff first second
  · intro noHash
    cases asked : transactionCall txHash with
    | ok call => exact absurd (exists_call_iff.mp ⟨call, asked⟩) noHash
    | error failure =>
        obtain ⟨fault, rfl⟩ := malformed_of_error asked
        exact ⟨_, fun answer => by rw [fetchTransaction, asked]; rfl⟩

example : (transactionCall "0x0xABcd").map Rpc.Call.params =
    .ok [("hash", .string "q80="), ("prove", .boolean false)] := rfl

end Settlement.Chain.Reader
