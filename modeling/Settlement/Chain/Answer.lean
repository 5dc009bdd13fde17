import Settlement.Json
import Settlement.Time.Relaxed

/-!
What the node answers about blocks and transactions. A record may be written with its
member names or as the list of its fields in order; further members are ignored, and a
null is not a missing field.
-/

namespace Settlement.Chain

structure BlockHeader where
  height : Nat
  time : Timestamp
  deriving DecidableEq

structure TxResult where
  code : Nat
  log : String
  deriving DecidableEq

structure TxResponse where
  hash : String
  height : Nat
  result : TxResult
  deriving DecidableEq

def TxResponse.isFailed (tx : TxResponse) : Bool := tx.result.code ≠ 0

def fields? (names : List String) : Json → Option (List (Option Json))
  | .object members => some (names.map fun name => (Json.object members).member? name)
  | .array items =>
      if items.length ≤ names.length then
        some (items.map some ++ List.replicate (names.length - items.length) none)
      else none
  | _ => none

def height? (json : Json) : Option Nat := json.string? >>= Text.Decimal.unsigned?

def code? (json : Json) : Option Nat := json.natural? >>= Text.Decimal.atMost 0xffff_ffff

def BlockHeader.ofJson? (json : Json) : Option BlockHeader := do
  match ← fields? ["height", "time"] json with
  | [some height, some time] =>
      return ⟨← height? height, ← time.string? >>= Time.relaxed?⟩
  | _ => none

def optional (default : α) (read : Json → Option α) : Option Json → Option α
  | none => some default
  | some json => read json

def TxResult.ofJson? (json : Json) : Option TxResult := do
  match ← fields? ["code", "log"] json with
  | [code, log] => return ⟨← optional 0 code? code, ← optional "" Json.string? log⟩
  | _ => none

def TxResponse.ofJson? (json : Json) : Option TxResponse := do
  match ← fields? ["hash", "height", "tx_result"] json with
  | [some hash, some height, some result] =>
      return ⟨← hash.string?, ← height? height, ← TxResult.ofJson? result⟩
  | _ => none

end Settlement.Chain
