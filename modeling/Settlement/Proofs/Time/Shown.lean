import Settlement.Proofs.Time.Written
import Settlement.Time.Relaxed

/-!
The form of a time that is shown to clients. Who reads it as the service reads the times of
clients gets the same time, a leap second and all nanoseconds included.
-/

namespace Settlement.Time

open Text.Decimal

variable {mark : Char} {number : Nat} {rest : List Char}

theorem spacedMark?_mark (visible : Text.isBlank mark = false) :
    spacedMark? mark (mark :: rest) = some rest := by
  simp [spacedMark?, Text.skipBlank, visible, mark?]

theorem field?_padded (small : number < 100) :
    field? ((padded 2 number).toList ++ rest) = some (number, rest) := by
  have length := length_padded (by decide : 0 < 2) small
  rw [field?, skipBlank_padded]
  exact number?_padded (Nat.le_of_eq length) (Or.inl length)

theorem year?_padded (small : number < 10_000) :
    year? (Text.skipBlank ((padded 4 number).toList ++ rest)) = some ((number : Int), rest) := by
  have length := length_padded (by decide : 0 < 4) small
  have all : (padded 4 number).toList.all isDigit = true := isDigit_padded
  have read : number? 4 ((padded 4 number).toList ++ rest) = some (number, rest) :=
    number?_padded (Nat.le_of_eq length) (.inl length)
  rw [skipBlank_padded]
  cases written : (padded 4 number).toList with
  | nil =>
      rw [written] at length
      cases length
  | cons c digits =>
      rw [written, List.all_cons, Bool.and_eq_true] at all
      have unsigned : c ≠ '-' ∧ c ≠ '+' := by
        constructor <;> rintro rfl <;> exact absurd all.1 (by decide)
      rw [written, List.cons_append] at read
      simp [year?, unsigned, read]

theorem relaxed?_shown (time : Timestamp) : relaxed? time.shown = some time := by
  obtain ⟨_, month, day, hour, minute, second, nanosecond⟩ := time.valid
  have days : Moment.daysIn time.year time.month ≤ 31 := by
    unfold Moment.daysIn
    repeat' split
    all_goals omega
  have year : ∀ rest, year? (Text.skipBlank ((Moment.yearText time.year).toList ++ '-' :: rest)) =
      some (time.year, '-' :: rest) := by
    intro rest
    by_cases plain : 0 ≤ time.year ∧ time.year ≤ 9999
    · have same : ((time.year.toNat : Nat) : Int) = time.year := Int.toNat_of_nonneg plain.1
      rw [Moment.yearText, if_pos plain, year?_padded (by omega), same]
    · exact year?_yearText plain _ rfl
  have zone : zone? (Text.skipBlank ['Z']) = some (0, []) := by decide
  have fraction := @fraction?_fractionText 'Z' _ rfl (by decide) nanosecond []
  have hyphen := fun rest => @spacedMark?_mark '-' rest rfl
  have colon := fun rest => @spacedMark?_mark ':' rest rfl
  have two : ∀ number, number < 100 → ∀ rest,
      field? ((padded 2 number).toList ++ rest) = some (number, rest) :=
    fun _ small _ => field?_padded small
  rw [relaxed?, Timestamp.shown, String.toList_append, toList_text]
  simp only [year, hyphen, colon, two time.month (by omega), two time.day (by omega),
    two time.hour (by omega), two time.minute (by omega), two time.second (by omega), separator?,
    true_or, if_true, Option.bind_eq_bind, Option.bind_some]
  change (fraction? (_ ++ ['Z']) >>= _) = _
  rw [fraction, Option.bind_eq_bind, Option.bind_some]
  simp only [zone, Option.bind_some, List.all_nil, if_true]
  exact inUtc?_zero time

end Settlement.Time
