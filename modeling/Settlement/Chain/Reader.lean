import Settlement.Chain.Answer
import Settlement.Chain.Rpc
import Settlement.Retry.Backoff
import Settlement.Retry.Run
import Settlement.Text.Base64
import Settlement.Text.Hex
import Settlement.Text.Quoted

/-!
Asking the node for a block or a transaction. A block is asked for again while the
call fails; a transaction is asked for once, and not to know it is an answer.
-/

namespace Settlement.Chain.Reader

open Text

/-- Within ten seconds altogether, each delay half as long again as the one before. -/
def policy? (maxRetries : Nat) : Option Retry.Backoff :=
  Retry.Backoff.make? maxRetries (.ofSeconds 10) 1.5

def blockCall (height : Nat) : Rpc.Call := ⟨"block", [("height", .string (toString height))]⟩

def header (height : Nat) (payload : Json) : Except Failure BlockHeader :=
  match payload.path? ["block", "header"] with
  | none => .error (.malformed ("block " ++ toString height ++ " has no header"))
  | some json =>
    match BlockHeader.ofJson? json with
    | some header => .ok header
    | none => .error .payload

/-- Only a failed call is made again; a payload that does not fit ends the run. -/
def fetchBlock (policy : Retry.Backoff) (height : Nat) (answer : Nat → Rpc.Answer) :
    Retry.Run Failure BlockHeader :=
  let run := Retry.run policy.delay? (fun call => (answer call).payload) policy.maxRetries
  match run.ending with
  | .returned result => ⟨run.waits, .returned (result >>= header height)⟩
  | .noDelay => ⟨run.waits, .noDelay⟩

/-- However often a hash is marked as hexadecimal, the marks do not count. -/
def unmarked : List Char → List Char
  | '0' :: 'x' :: rest => unmarked rest
  | text => text

def describe : Hex.Fault → String
  | .oddLength => "Odd number of digits"
  | .invalidOctet octet position =>
      "Invalid character " ++ Quoted.character (Char.ofNat octet) ++ " at position " ++
        toString position

def transactionCall (txHash : String) : Except Failure Rpc.Call :=
  match Hex.decode (unmarked txHash.toList) with
  | .ok octets =>
      .ok ⟨"tx", [("hash", .string (String.ofList (Base64.encode octets))),
        ("prove", .boolean false)]⟩
  | .error fault =>
      .error (.malformed ("invalid tx hash " ++ txHash ++ ": " ++ describe fault))

def transaction (answer : Rpc.Answer) : Except Failure (Option TxResponse) :=
  match answer.payload with
  | .ok payload =>
    match TxResponse.ofJson? payload with
    | some tx => .ok (some tx)
    | none => .error .payload
  | .error failure => if failure.isNotFound then .ok none else .error failure

def fetchTransaction (answer : Rpc.Call → Rpc.Answer) (txHash : String) :
    Except Failure (Option TxResponse) :=
  transactionCall txHash >>= fun call => transaction (answer call)

end Settlement.Chain.Reader
