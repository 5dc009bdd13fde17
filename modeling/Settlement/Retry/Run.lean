import Settlement.Time.Span

/-!
Calling an operation again while it fails. The run ends with the first success, with
the failure that finds no retry left, or where the policy has no delay; what it keeps
is the list of the delays waited for.
-/

namespace Settlement.Retry

inductive Ending (ε α : Type) where
  | returned (result : Except ε α)
  | noDelay

structure Run (ε α : Type) where
  waits : List Span
  ending : Ending ε α

namespace Run

variable {ε α : Type}

def calls (run : Run ε α) : Nat := run.waits.length + 1

def waited (span : Span) (run : Run ε α) : Run ε α := { run with waits := span :: run.waits }

end Run

variable {ε α : Type} (delay : Nat → Option Span) (outcome : Nat → Except ε α)

def runFrom (made left : Nat) : Run ε α :=
  match left, outcome made with
  | _, .ok value => ⟨[], .returned (.ok value)⟩
  | 0, .error cause => ⟨[], .returned (.error cause)⟩
  | left + 1, .error _ =>
    match delay (made + 1) with
    | none => ⟨[], .noDelay⟩
    | some span => (runFrom (made + 1) left).waited span

def run (maxRetries : Nat) : Run ε α := runFrom delay outcome 0 maxRetries

def longestWait : Nat := 30 * 365 * 24 * 60 * 60 * 1000

def callTimes (start : Nat) : List Span → List Nat
  | [] => [start]
  | span :: rest => start :: callTimes (start + min span.roundedUp longestWait) rest

end Settlement.Retry
