import Settlement.Chain.Failure
import Settlement.Store.Record

/-!
Why the event pipeline stopped. A failure is a cause with the activities around it,
the outermost first; its message names those and, where the cause has a wording of its
own, ends with it.
-/

namespace Settlement

inductive Cause where
  | storage (fault : Store.Fault)
  | heightRange
  | chain (failure : Chain.Failure)
  | source (failure : Chain.Failure)
  /-- The height after the stored one overflows. -/
  | noNextHeight
  deriving DecidableEq

structure Failure where
  contexts : List String
  cause : Cause
  deriving DecidableEq

namespace Failure

def ofCause (cause : Cause) : Failure := ⟨[], cause⟩

def within (context : String) (failure : Failure) : Failure :=
  { failure with contexts := context :: failure.contexts }

def causeText? : Cause → Option String
  | .chain failure => failure.message?
  | .source failure => some ("node request failed: " ++ failure.message?.getD "")
  | .storage _ | .heightRange | .noNextHeight => none

def message (failure : Failure) : String :=
  ": ".intercalate (failure.contexts ++ (causeText? failure.cause).toList)

end Failure

end Settlement
