import Settlement.Binary
import Settlement.Text.Decimal
import Settlement.Time.Span

/-!
Spans as binary floating-point seconds. A double is rounded to the nearest nanosecond,
and in a tie to the even one.
-/

namespace Settlement.Time

/-- A span has fewer than two to the sixty-fourth seconds. -/
def representable (span : Span) : Bool := span.seconds ≤ Text.Decimal.maxUnsigned

def spanOfSeconds? (seconds : Float) : Option Span := do
  let value ← Binary.ofBits? seconds.toBits.toNat
  let span : Span := ⟨value.scaled 1_000_000_000⟩
  if (value.negative && value.coefficient ≠ 0) || !representable span then none else some span

def secondsOfSpan (span : Span) : Float :=
  (UInt64.ofNat span.seconds).toFloat + (UInt64.ofNat span.subsecond).toFloat / 1000000000

end Settlement.Time
