import Settlement.Time.Seconds

/-!
Exponential backoff: the delays before the first, second and further retries form a
geometric series that adds up to about the total time. The arithmetic is that of
doubles, and a delay that is no span does not exist.
-/

namespace Settlement.Retry

/-- Products of repeated squares, from the low bit of the exponent upwards. -/
def powerFrom (result base : Float) (exponent : Nat) : Float :=
  let result := if exponent % 2 = 1 then result * base else result
  if exponent / 2 = 0 then result else powerFrom result (base * base) (exponent / 2)
termination_by exponent
decreasing_by omega

def power (base : Float) (exponent : Int) : Float :=
  let magnitude := powerFrom 1 base exponent.natAbs
  if exponent < 0 then 1 / magnitude else magnitude

def leadingDigits (number : Nat) : Nat × Nat :=
  if number ≤ Text.Decimal.maxUnsigned then (number, 0)
  else
    let (leading, dropped) := leadingDigits (number / 10)
    (leading, dropped + 1)
termination_by number
decreasing_by simp only [Text.Decimal.maxUnsigned] at *; omega

def powerOfTen (places : Nat) : Float := Float.ofScientific 1 false places

def divided (value : Float) (places : Nat) : Float :=
  if places ≤ 308 then value / powerOfTen places else divided (value / powerOfTen 308) (places - 308)
termination_by places

/-- A factor written as a whole number and a power of ten. The number is rounded to a double
first, and then its product or quotient with the power is. -/
def factor (number power : Int) : Float :=
  let (leading, dropped) := leadingDigits number.natAbs
  let value := (UInt64.ofNat leading).toFloat
  let power := power + dropped
  let magnitude :=
    if 0 ≤ power then value * powerOfTen power.toNat else divided value (-power).toNat
  if number < 0 then -magnitude else magnitude

def signed32 (n : Nat) : Int := Int.bmod n 0x1_0000_0000

def machineEpsilon : Float := Float.ofBits 0x3CB0000000000000

/-- How the total time divides into the first delay. Next to one, the delays are equal. -/
def baseDelay? (maxRetries : Nat) (total : Span) (multiplier : Float) : Option Span :=
  if maxRetries = 0 then some .zero
  else if (multiplier - 1).abs < machineEpsilon then
    let parts := maxRetries % 0x1_0000_0000
    if parts = 0 then none else some ⟨total.nanoseconds / parts⟩
  else
    let series := (power multiplier (signed32 maxRetries) - 1) / (multiplier - 1)
    Time.spanOfSeconds? (Time.secondsOfSpan total / series)

structure Backoff where
  maxRetries : Nat
  baseDelay : Span
  multiplier : Float

namespace Backoff

def make? (maxRetries : Nat) (total : Span) (multiplier : Float) : Option Backoff :=
  if Time.representable total then
    (baseDelay? maxRetries total multiplier).map fun base => ⟨maxRetries, base, multiplier⟩
  else none

def delay? (policy : Backoff) (attempt : Nat) : Option Span :=
  Time.spanOfSeconds?
    (power policy.multiplier (signed32 (attempt - 1)) * Time.secondsOfSpan policy.baseDelay)

end Backoff

end Settlement.Retry
