import Mathlib.Data.Nat.Init
import Settlement.Proofs.Time.Written

/-!
Instants, and times as texts. On the time line a leap second lies within the second before it,
which is then longer. Of two times in years of four digits the earlier one has the lesser text,
although the texts have fractions of different lengths.
-/

namespace Settlement

/-- The seconds since the beginning of 1970 that are no leap seconds, and the nanoseconds since
the last of them. -/
structure Instant where
  second : Int
  nanosecond : Nat
  deriving DecidableEq

instance : LT Instant where
  lt a b := a.second < b.second ∨ a.second = b.second ∧ a.nanosecond < b.nanosecond

instance (a b : Instant) : Decidable (a < b) :=
  inferInstanceAs (Decidable (_ ∨ _))

theorem Instant.lt_iff {a b : Instant} :
    a < b ↔ a.second < b.second ∨ a.second = b.second ∧ a.nanosecond < b.nanosecond := Iff.rfl

namespace Moment

def daysToYear (year : Int) : Int :=
  365 * (year - 1) + (year - 1) / 4 - (year - 1) / 100 + (year - 1) / 400

def daysToMonth (year : Int) : (month : Nat) → Nat
  | 0 | 1 => 0
  | month + 1 => daysToMonth year month + daysIn year month

def epochDay : Int := daysToYear 1970 + 1

variable (moment : Moment)

def dayNumber : Int :=
  daysToYear moment.year + daysToMonth moment.year moment.month + moment.day - epochDay

/-- The sixtieth second is a part of the fifty-ninth. -/
def instant : Instant where
  second :=
    ((moment.dayNumber * 24 + moment.hour) * 60 + moment.minute) * 60 + min moment.second 59
  nanosecond := (moment.second - 59) * 1_000_000_000 + moment.nanosecond

example : (Moment.mk 2016 12 31 23 59 60 500_000_000).instant = ⟨1_483_228_799, 1_500_000_000⟩ := by
  decide

def Precedes (a b : Moment) : Prop :=
  a.year < b.year ∨ a.year = b.year ∧ (a.month < b.month ∨ a.month = b.month ∧
    (a.day < b.day ∨ a.day = b.day ∧ (a.hour < b.hour ∨ a.hour = b.hour ∧
      (a.minute < b.minute ∨ a.minute = b.minute ∧ (a.second < b.second ∨ a.second = b.second ∧
        a.nanosecond < b.nanosecond)))))

section Days

variable {year later : Int} {month other : Nat}

theorem daysToYear_succ (year : Int) :
    daysToYear (year + 1) = daysToYear year + (if isLeapYear year then 366 else 365) := by
  have leap : isLeapYear year = true ↔ year % 4 = 0 ∧ (year % 100 ≠ 0 ∨ year % 400 = 0) := by
    simp [isLeapYear]
  unfold daysToYear
  split
  · rename_i holds
    rw [leap] at holds
    omega
  · rename_i fails
    rw [leap] at fails
    omega

theorem daysToYear_le (before : year + 1 ≤ later) :
    daysToYear (year + 1) ≤ daysToYear later := by
  unfold daysToYear
  omega

theorem daysToMonth_succ (year : Int) (positive : 1 ≤ month) :
    daysToMonth year (month + 1) = daysToMonth year month + daysIn year month := by
  obtain ⟨before, rfl⟩ := Nat.exists_eq_add_of_le' positive
  rfl

theorem daysToMonth_le (positive : 1 ≤ month) (before : month < other) :
    daysToMonth year month + daysIn year month ≤ daysToMonth year other := by
  induction other, before using Nat.le_induction with
  | base => exact Nat.le_of_eq (daysToMonth_succ year positive).symm
  | succ last passed ih =>
      rw [daysToMonth_succ year (by omega)]
      omega

theorem daysToMonth_year (year : Int) :
    daysToMonth year 13 = if isLeapYear year then 366 else 365 := by
  cases leap : isLeapYear year <;> simp [daysToMonth, daysIn, leap]

end Days

section Order

variable {a b : Moment} (valid : a.IsValid) (other : b.IsValid)

include valid

theorem daysToMonth_day_le : daysToMonth a.year a.month + a.day ≤ daysToMonth a.year 13 := by
  obtain ⟨_, ⟨positive, twelve⟩, ⟨_, inMonth⟩, _⟩ := valid
  have months : daysToMonth a.year a.month + daysIn a.year a.month ≤ daysToMonth a.year 13 :=
    daysToMonth_le positive (by omega)
  omega

include other

theorem dayNumber_lt (earlier : a.year < b.year ∨ a.year = b.year ∧
    (a.month < b.month ∨ a.month = b.month ∧ a.day < b.day)) : a.dayNumber < b.dayNumber := by
  have inYear := daysToMonth_day_le valid
  rw [daysToMonth_year] at inYear
  obtain ⟨_, ⟨positive, _⟩, ⟨_, inMonth⟩, _⟩ := valid
  have begun : 1 ≤ b.day := other.2.2.1.1
  unfold dayNumber
  rcases earlier with years | ⟨same, months | ⟨equal, days⟩⟩
  · have whole := daysToYear_le years
    rw [daysToYear_succ] at whole
    split at inYear <;> split at whole <;> omega
  · have whole : daysToMonth a.year a.month + daysIn a.year a.month ≤ daysToMonth a.year b.month :=
      daysToMonth_le positive months
    rw [← same]
    omega
  · rw [same, equal]
    omega

theorem dayNumber_order :
    (a.dayNumber < b.dayNumber ↔ a.year < b.year ∨ a.year = b.year ∧
      (a.month < b.month ∨ a.month = b.month ∧ a.day < b.day)) ∧
    (a.dayNumber = b.dayNumber ↔ a.year = b.year ∧ a.month = b.month ∧ a.day = b.day) := by
  have before := dayNumber_lt valid other
  have behind := dayNumber_lt other valid
  have same : a.year = b.year → a.month = b.month → a.day = b.day →
      a.dayNumber = b.dayNumber := by
    intro years months days
    rw [dayNumber, dayNumber, years, months, days]
  omega

theorem instant_lt_iff : a.instant < b.instant ↔ a.Precedes b := by
  have clock : a.instant < b.instant ↔ a.dayNumber < b.dayNumber ∨
      a.dayNumber = b.dayNumber ∧ (a.hour < b.hour ∨ a.hour = b.hour ∧ (a.minute < b.minute ∨
        a.minute = b.minute ∧ (a.second < b.second ∨ a.second = b.second ∧
          a.nanosecond < b.nanosecond))) := by
    obtain ⟨_, _, _, hour, minute, second, nanosecond⟩ := valid
    obtain ⟨_, _, _, hour', minute', second', nanosecond'⟩ := other
    simp only [Instant.lt_iff, instant]
    omega
  obtain ⟨less, same⟩ := dayNumber_order valid other
  rw [clock, less, same, Precedes]
  simp only [and_or_left, or_assoc, and_assoc]

end Order

end Moment

namespace Time

open Text.Decimal

/-- Digits with zeros behind them keep their order when a plus sign stands in their place. -/
theorem trimmed_lt {first second rest tail : List Char} {zeros others : Nat}
    (digits : first.all isDigit = true) (further : second.all isDigit = true)
    (length : first.length + zeros = second.length + others)
    (less : first ++ List.replicate zeros '0' < second ++ List.replicate others '0') :
    first ++ '+' :: rest < second ++ '+' :: tail := by
  induction first generalizing second with
  | nil =>
      cases second with
      | nil =>
          obtain rfl : zeros = others := by simpa using length
          exact absurd less (List.lt_irrefl _)
      | cons d second =>
          rw [List.all_cons, Bool.and_eq_true] at further
          have digit := further.1
          simp only [isDigit, Bool.and_eq_true, decide_eq_true_eq, Char.le_def,
            UInt32.le_iff_toNat_le] at digit
          have least : 48 ≤ d.toNat := digit.1
          have greater : '+' < d := UInt32.lt_iff_toNat_lt.mpr (show 43 < d.toNat by omega)
          exact List.cons_lt_cons_iff.mpr (.inl greater)
  | cons c first ih =>
      cases second with
      | nil =>
          -- No digits of the same number are less than zeros alone.
          have zero : ∀ count, value (List.replicate count '0') = 0 := by
            intro count
            have same : ∀ digits, value digits = Nat.ofDigitChars 10 digits 0 := fun _ => rfl
            rw [same, Nat.ofDigitChars_replicate_zero, Nat.mul_zero]
          have full : (c :: first ++ List.replicate zeros '0').all isDigit = true := by
            rw [List.all_append, digits, Bool.true_and]
            simp [isDigit]
          have plain : (List.replicate others '0').all isDigit = true := by simp [isDigit]
          have lengths : (c :: first ++ List.replicate zeros '0').length =
              (List.replicate others '0').length := by
            rw [List.length_append, List.length_replicate, List.length_replicate, length,
              List.length_nil, Nat.zero_add]
          rw [List.nil_append, lt_iff_value_lt full plain lengths, zero] at less
          exact absurd less (Nat.not_lt_zero _)
      | cons d second =>
          rw [List.all_cons, Bool.and_eq_true] at digits further
          simp only [List.cons_append, List.cons_lt_cons_iff] at less ⊢
          rcases less with greater | ⟨same, rest⟩
          · exact .inl greater
          · refine .inr ⟨same, ih digits.2 further.2 ?_ rest⟩
            simp only [List.length_cons] at length
            omega

theorem fractionText_digits {nanosecond : Nat} (present : nanosecond ≠ 0)
    (small : nanosecond < 1_000_000_000) :
    ∃ digits zeros, (Moment.fractionText nanosecond).toList = '.' :: digits ∧
      digits.all isDigit = true ∧ digits.length + zeros = 9 ∧
      value (digits ++ List.replicate zeros '0') = nanosecond := by
  have group : ∀ width number, 0 < width → width ≤ 9 → number < Nat.pow 10 width →
      number * 10 ^ (9 - width) = nanosecond →
      ∃ digits zeros, ("." ++ padded width number).toList = '.' :: digits ∧
        digits.all isDigit = true ∧ digits.length + zeros = 9 ∧
        value (digits ++ List.replicate zeros '0') = nanosecond := by
    intro width number positive bound fits whole
    have same : ∀ digits, value digits = Nat.ofDigitChars 10 digits 0 := fun _ => rfl
    refine ⟨(padded width number).toList, 9 - width, by rw [String.toList_append]; rfl,
      isDigit_padded, ?_, ?_⟩
    · rw [length_padded positive fits]
      omega
    · rw [same, Nat.ofDigitChars_append, Nat.ofDigitChars_replicate_zero, ← same, value_padded,
        Nat.mul_comm, whole]
  unfold Moment.fractionText
  rw [if_neg present]
  split
  · exact group 3 (nanosecond / 1_000_000) (by decide) (by decide)
      (show nanosecond / 1_000_000 < 1_000 by omega)
      (show nanosecond / 1_000_000 * 1_000_000 = nanosecond by omega)
  · split
    · exact group 6 (nanosecond / 1_000) (by decide) (by decide)
        (show nanosecond / 1_000 < 1_000_000 by omega)
        (show nanosecond / 1_000 * 1_000 = nanosecond by omega)
    · exact group 9 nanosecond (by decide) (by decide) small (Nat.mul_one nanosecond)

variable {first second : Nat} (small : first < 1_000_000_000) (other : second < 1_000_000_000)

include small other

theorem fractionText_lt (rest tail : List Char) (less : first < second) :
    (Moment.fractionText first).toList ++ '+' :: rest <
      (Moment.fractionText second).toList ++ '+' :: tail := by
  obtain ⟨further, others, written, isFurther, full, later⟩ :=
    fractionText_digits (Nat.ne_of_gt (Nat.lt_of_le_of_lt (Nat.zero_le first) less)) other
  rw [written]
  by_cases absent : first = 0
  · subst absent
    exact List.cons_lt_cons_iff.mpr (.inl (by decide))
  · obtain ⟨digits, zeros, begun, isDigits, length, earlier⟩ := fractionText_digits absent small
    rw [begun]
    refine List.cons_lt_cons_iff.mpr (.inr ⟨rfl, ?_⟩)
    have same := length.trans full.symm
    refine trimmed_lt isDigits isFurther same ?_
    have filled : ∀ {digits : List Char} (zeros : Nat), digits.all isDigit = true →
        (digits ++ List.replicate zeros '0').all isDigit = true := by
      intro digits zeros all
      rw [List.all_append, all, Bool.true_and]
      simp [isDigit]
    rw [lt_iff_value_lt (filled zeros isDigits) (filled others isFurther) (by simpa using same),
      earlier, later]
    exact less

theorem fractionText_lt_iff (rest : List Char) :
    (Moment.fractionText first).toList ++ '+' :: rest <
      (Moment.fractionText second).toList ++ '+' :: rest ↔ first < second := by
  constructor
  · intro texts
    rcases Nat.lt_trichotomy first second with less | rfl | greater
    · exact less
    · exact absurd texts (List.lt_irrefl _)
    · exact absurd (fractionText_lt other small rest rest greater) (List.lt_asymm texts)
  · exact fractionText_lt small other rest rest

end Time

namespace Timestamp

def IsPlain (time : Timestamp) : Prop := 0 ≤ time.year ∧ time.year ≤ 9999

instance (time : Timestamp) : Decidable time.IsPlain := inferInstanceAs (Decidable (_ ∧ _))

/-- As texts, times stand in the order of time. -/
theorem lt_stored_iff {a b : Timestamp} (plain : a.IsPlain) (other : b.IsPlain) :
    a.stored < b.stored ↔ a.instant < b.instant := by
  have parts : ∀ time : Timestamp, time.month < 100 ∧ time.day < 100 ∧ time.hour < 100 ∧
      time.minute < 100 ∧ time.second < 100 ∧ time.nanosecond < 1_000_000_000 := by
    intro time
    obtain ⟨_, month, day, hour, minute, second, nanosecond⟩ := time.valid
    have days : Moment.daysIn time.year time.month ≤ 31 := by
      unfold Moment.daysIn
      repeat' split
      all_goals omega
    omega
  obtain ⟨month, day, hour, minute, second, nanosecond⟩ := parts a
  obtain ⟨month', day', hour', minute', second', nanosecond'⟩ := parts b
  have two : ∀ {first second : Nat}, first < 100 → second < 100 → ∀ rest tail,
      (Text.Decimal.padded 2 first).toList ++ rest < (Text.Decimal.padded 2 second).toList ++ tail ↔
        first < second ∨ first = second ∧ rest < tail :=
    fun small other => Text.Decimal.padded_append_lt_iff (by decide) small other
  have four : a.year.toNat < 10_000 := by
    have bound := plain.2
    omega
  have four' : b.year.toNat < 10_000 := by
    have bound := other.2
    omega
  have years : (a.year.toNat < b.year.toNat ↔ a.year < b.year) ∧
      (a.year.toNat = b.year.toNat ↔ a.year = b.year) := by
    have least := plain.1
    have least' := other.1
    omega
  -- Every field takes as many places in one text as in the other, so the first difference decides.
  rw [Moment.instant_lt_iff a.valid b.valid, Moment.Precedes, String.lt_iff,
    Time.toList_stored, Time.toList_stored, Moment.yearText, Moment.yearText,
    if_pos ⟨plain.1, plain.2⟩, if_pos ⟨other.1, other.2⟩,
    Text.Decimal.padded_append_lt_iff (by decide : 0 < 4) four four', years.1, years.2]
  simp only [List.cons_lt_cons_iff, Char.lt_irrefl, false_or, true_and, two month month',
    two day day', two hour hour', two minute minute', two second second',
    Time.fractionText_lt_iff nanosecond nanosecond']

end Timestamp

end Settlement
