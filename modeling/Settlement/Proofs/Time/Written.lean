import Settlement.Proofs.Text.Padded
import Settlement.Time.Column

/-!
The stored form of a time is read as that time. Years of four digits go through the strict
reader; a year with a sign is refused there and read by the loose one.
-/

namespace Settlement.Time

open Text.Decimal

theorem takeWhile_digits {digits rest : List Char} (all : digits.all isDigit = true)
    (ends : rest.head?.all (fun c => !isDigit c) = true) :
    (digits ++ rest).takeWhile isDigit = digits := by
  rw [List.takeWhile_append_of_pos (fun c member => List.all_eq_true.mp all c member)]
  cases rest with
  | nil => simp
  | cons c rest =>
      have other : isDigit c = false := by simpa using ends
      simp [other]

theorem exactly?_padded {width number : Nat} (positive : 0 < width)
    (small : number < Nat.pow 10 width) (rest : List Char) :
    exactly? width ((padded width number).toList ++ rest) = some (number, rest) := by
  have length := length_padded positive small
  have taken : ((padded width number).toList ++ rest).take width =
      (padded width number).toList := List.take_left' length
  have dropped : ((padded width number).toList ++ rest).drop width = rest :=
    List.drop_left' length
  simp only [exactly?, taken, dropped, length, isDigit_padded, and_self, if_true, value_padded]

theorem number?_padded {width number most : Nat} {rest : List Char}
    (bound : (padded width number).toList.length ≤ most)
    (ends : (padded width number).toList.length = most ∨
      rest.head?.all (fun c => !isDigit c) = true) :
    number? most ((padded width number).toList ++ rest) = some (number, rest) := by
  have digits : (((padded width number).toList ++ rest).take most).takeWhile isDigit =
      (padded width number).toList := by
    rw [List.take_append, List.take_of_length_le bound]
    refine takeWhile_digits isDigit_padded ?_
    rcases ends with full | other
    · simp [full]
    · cases rest with
      | nil => simp
      | cons c rest =>
          cases most - (padded width number).toList.length with
          | zero => rfl
          | succ count => simpa using other
  have written : (padded width number).toList ≠ [] := List.ne_nil_of_length_pos length_padded_pos
  simp only [number?, digits]
  rw [if_neg (by simpa using written), value_padded, List.drop_left]

theorem fraction?_fractionText {mark : Char} {nanosecond : Nat} (ends : isDigit mark = false)
    (apart : mark ≠ '.') (small : nanosecond < 1_000_000_000) (rest : List Char) :
    fraction? ((Moment.fractionText nanosecond).toList ++ mark :: rest) =
      some (nanosecond, mark :: rest) := by
  have group : ∀ width number, 0 < width → width ≤ 9 → number < Nat.pow 10 width →
      fraction? (("." ++ padded width number).toList ++ mark :: rest) =
        some (number * Nat.pow 10 (9 - width), mark :: rest) := by
    intro width number positive bound fits
    have length := length_padded positive fits
    have digits : ((padded width number).toList ++ mark :: rest).takeWhile isDigit =
        (padded width number).toList := takeWhile_digits isDigit_padded (by simp [ends])
    have written : (padded width number).toList ≠ [] :=
      List.ne_nil_of_length_pos length_padded_pos
    have kept : (padded width number).toList.take 9 = (padded width number).toList :=
      List.take_of_length_le (by omega)
    rw [String.toList_append]
    change fraction? ('.' :: ((padded width number).toList ++ mark :: rest)) = _
    simp only [fraction?, digits]
    rw [if_neg (by simpa using written), kept, value_padded, length, List.drop_left' length]
  -- None, three, six or nine digits are written, the fewest that are exact.
  unfold Moment.fractionText
  split
  · subst nanosecond
    change fraction? (mark :: rest) = some (0, mark :: rest)
    simp [fraction?, apart]
  · split
    · have fits : nanosecond / 1_000_000 < 1_000 := by omega
      rw [group 3 (nanosecond / 1_000_000) (by decide) (by decide) fits]
      congr 2
      change nanosecond / 1_000_000 * 1_000_000 = nanosecond
      omega
    · split
      · have fits : nanosecond / 1_000 < 1_000_000 := by omega
        rw [group 6 (nanosecond / 1_000) (by decide) (by decide) fits]
        congr 2
        change nanosecond / 1_000 * 1_000 = nanosecond
        omega
      · rw [group 9 nanosecond (by decide) (by decide) small]
        congr 2
        exact Nat.mul_one nanosecond

theorem skipBlank_padded {width number : Nat} (rest : List Char) :
    Text.skipBlank ((padded width number).toList ++ rest) =
      (padded width number).toList ++ rest := by
  have all : (padded width number).toList.all isDigit = true := isDigit_padded
  cases written : (padded width number).toList with
  | nil => exact absurd (congrArg List.length written) (Nat.ne_of_gt length_padded_pos)
  | cons c digits =>
      rw [written, List.all_cons, Bool.and_eq_true] at all
      have visible : Text.isBlank c = false := by
        have digit := all.1
        simp only [isDigit, Bool.and_eq_true, decide_eq_true_eq, Char.le_def,
          UInt32.le_iff_toNat_le] at digit
        obtain ⟨least, greatest⟩ := digit
        change 48 ≤ c.toNat at least
        change c.toNat ≤ 57 at greatest
        simp only [Text.isBlank, Bool.or_eq_false_iff, Bool.and_eq_false_iff,
          decide_eq_false_iff_not]
        omega
      simp [Text.skipBlank, visible]

theorem toList_text (moment : Moment) (zone : List Char) :
    moment.text.toList ++ zone = (Moment.yearText moment.year).toList ++ '-' ::
      ((padded 2 moment.month).toList ++ '-' :: ((padded 2 moment.day).toList ++ 'T' ::
        ((padded 2 moment.hour).toList ++ ':' :: ((padded 2 moment.minute).toList ++ ':' ::
          ((padded 2 moment.second).toList ++
            ((Moment.fractionText moment.nanosecond).toList ++ zone)))))) := by
  simp [Moment.text]

theorem toList_stored (time : Timestamp) :
    time.stored.toList = (Moment.yearText time.year).toList ++ '-' ::
      ((padded 2 time.month).toList ++ '-' :: ((padded 2 time.day).toList ++ 'T' ::
        ((padded 2 time.hour).toList ++ ':' :: ((padded 2 time.minute).toList ++ ':' ::
          ((padded 2 time.second).toList ++ ((Moment.fractionText time.nanosecond).toList ++
            ['+', '0', '0', ':', '0', '0'])))))) := by
  rw [Timestamp.stored, String.toList_append, ← toList_text]
  rfl

theorem inUtc?_zero (time : Timestamp) : inUtc? time.toMoment 0 = some time := by
  have hour : time.hour ≤ 23 := time.valid.2.2.2.1
  have minute : time.minute ≤ 59 := time.valid.2.2.2.2.1
  have same : time.toMoment.behind 0 = time.toMoment := by
    have total : ((time.hour : Int) * 60 + time.minute - 0).toNat = time.hour * 60 + time.minute :=
      by omega
    have hours : (time.hour * 60 + time.minute) / 60 = time.hour := by omega
    have minutes : (time.hour * 60 + time.minute) % 60 = time.minute := by omega
    simp only [Moment.behind]
    rw [if_neg (by omega), if_neg (by omega), total, Moment.atMinute, hours, minutes]
  rw [inUtc?, if_pos ⟨time.valid, rfl⟩, same, Timestamp.ofMoment?, dif_pos time.valid]

theorem strict?_stored (time : Timestamp) (least : 0 ≤ time.year) (greatest : time.year ≤ 9999) :
    strict? time.stored.toList = some time := by
  obtain ⟨_, month, day, hour, minute, second, nanosecond⟩ := time.valid
  have days : Moment.daysIn time.year time.month ≤ 31 := by
    unfold Moment.daysIn
    repeat' split
    all_goals omega
  have two : ∀ number, number < 100 → ∀ rest,
      exactly? 2 ((padded 2 number).toList ++ rest) = some (number, rest) :=
    fun _ small => exactly?_padded (by decide) small
  have fraction := @fraction?_fractionText '+' _ rfl (by decide) nanosecond
  have year : ((time.year.toNat : Nat) : Int) = time.year := Int.toNat_of_nonneg least
  rw [toList_stored, Moment.yearText, if_pos ⟨least, greatest⟩]
  have four : time.year.toNat < 10_000 := by omega
  simp only [strict?, exactly?_padded (by decide : 0 < 4) four,
    two time.month (by omega), two time.day (by omega), two time.hour (by omega),
    two time.minute (by omega), two time.second (by omega), fraction,
    mark?, separator?, if_true, true_or, Option.bind_eq_bind, Option.bind_some, year]
  exact inUtc?_zero time

theorem year?_yearText {year : Int} (signed : ¬(0 ≤ year ∧ year ≤ 9999)) (rest : List Char)
    (ends : rest.head?.all (fun c => !isDigit c) = true) :
    year? (Text.skipBlank ((Moment.yearText year).toList ++ rest)) = some (year, rest) := by
  have number : number? ((padded 4 year.natAbs).toList ++ rest).length
      ((padded 4 year.natAbs).toList ++ rest) = some (year.natAbs, rest) :=
    number?_padded (by simp) (Or.inr ends)
  have minus : ∀ text, year? (Text.skipBlank ('-' :: text)) =
      (number? text.length text).map fun read => (-(read.1 : Int), read.2) := by
    intro text
    rw [Text.skipBlank, List.dropWhile_cons_of_neg (by decide)]
    rfl
  have plus : ∀ text, year? (Text.skipBlank ('+' :: text)) =
      (number? text.length text).map fun read => ((read.1 : Int), read.2) := by
    intro text
    rw [Text.skipBlank, List.dropWhile_cons_of_neg (by decide)]
    rfl
  rw [Moment.yearText, if_neg signed, String.toList_append, List.append_assoc]
  by_cases negative : year < 0
  · have same : -(year.natAbs : Int) = year := by omega
    have sign : "-".toList = ['-'] := rfl
    rw [if_pos negative, sign, List.singleton_append, minus, number, Option.map_some]
    exact congrArg (fun year => some (year, rest)) same
  · have same : (year.natAbs : Int) = year := by omega
    have sign : "+".toList = ['+'] := rfl
    rw [if_neg negative, sign, List.singleton_append, plus, number, Option.map_some]
    exact congrArg (fun year => some (year, rest)) same

theorem loose?_stored (time : Timestamp) (signed : ¬(0 ≤ time.year ∧ time.year ≤ 9999)) :
    loose? time.stored.toList = some time := by
  obtain ⟨_, month, day, hour, minute, second, nanosecond⟩ := time.valid
  have days : Moment.daysIn time.year time.month ≤ 31 := by
    unfold Moment.daysIn
    repeat' split
    all_goals omega
  have two : ∀ number, number < 100 → ∀ rest,
      number? 2 ((padded 2 number).toList ++ rest) = some (number, rest) := by
    intro number small rest
    have length := length_padded (by decide : 0 < 2) small
    exact number?_padded (Nat.le_of_eq length) (Or.inl length)
  have fraction := @fraction?_fractionText '+' _ rfl (by decide) nanosecond
  rw [toList_stored]
  simp only [loose?, year?_yearText signed ('-' :: _) rfl, skipBlank_padded,
    two time.month (by omega), two time.day (by omega), two time.hour (by omega),
    two time.minute (by omega), two time.second (by omega), fraction,
    mark?, seconds?, if_true, Option.bind_eq_bind, Option.bind_some, Option.getD_some]
  change inUtcOrAsIs? time.toMoment 0 = some time
  rw [inUtcOrAsIs?, inUtc?_zero]
  rfl

theorem strict?_signed {year : Int} (signed : ¬(0 ≤ year ∧ year ≤ 9999)) (rest : List Char) :
    strict? ((Moment.yearText year).toList ++ rest) = none := by
  have refused : ∀ sign digits, isDigit sign = false → exactly? 4 (sign :: digits) = none := by
    intro sign digits other
    simp [exactly?, other]
  rw [Moment.yearText, if_neg signed, String.toList_append, List.append_assoc]
  by_cases negative : year < 0
  · rw [if_pos negative]
    change strict? ('-' :: _) = none
    rw [strict?, refused '-' _ rfl]
    rfl
  · rw [if_neg negative]
    change strict? ('+' :: _) = none
    rw [strict?, refused '+' _ rfl]
    rfl

/-- Every time survives its column. -/
theorem ofColumn?_stored (time : Timestamp) : ofColumn? time.stored = some time := by
  rw [ofColumn?]
  by_cases plain : 0 ≤ time.year ∧ time.year ≤ 9999
  · rw [strict?_stored time plain.1 plain.2]
    rfl
  · have refused : strict? time.stored.toList = none := by
      rw [toList_stored]
      exact strict?_signed plain _
    rw [refused, loose?_stored time plain]
    rfl

end Settlement.Time
