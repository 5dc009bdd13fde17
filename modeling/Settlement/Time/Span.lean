/-!
Lengths of time to the nanosecond.
-/

namespace Settlement

structure Span where
  nanoseconds : Nat
  deriving DecidableEq

namespace Span

def zero : Span := ⟨0⟩

def ofSeconds (seconds : Nat) : Span := ⟨seconds * 1_000_000_000⟩

def ofMilliseconds (milliseconds : Nat) : Span := ⟨milliseconds * 1_000_000⟩

variable (span : Span)

def seconds : Nat := span.nanoseconds / 1_000_000_000

def subsecond : Nat := span.nanoseconds % 1_000_000_000

def milliseconds : Nat := span.nanoseconds / 1_000_000

def roundedUp : Nat := (span.nanoseconds + 999_999) / 1_000_000

end Span

end Settlement
