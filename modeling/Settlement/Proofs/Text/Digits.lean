import Settlement.Proofs.Text.Padded

/-!
Numbers written without leading zeros. Texts are compared from the front, so a greater number is
compared by as many of its digits as the lesser one has.
-/

namespace Settlement.Text.Decimal

variable {first second number : Nat}

def digitCount (number : Nat) : Nat := (Nat.toDigits 10 number).length

/-- The number that the first digits of the second one make, as many as the first one has. -/
def leading (first second : Nat) : Nat := second / Nat.pow 10 (digitCount second - digitCount first)

theorem toList_toString (number : Nat) : (toString number).toList = Nat.toDigits 10 number := by
  rw [Nat.toString_eq_repr, Nat.toList_repr]

theorem toList_unpadded : (padded 0 number).toList = Nat.toDigits 10 number := by
  rw [toList_padded, Nat.zero_sub, List.replicate_zero, List.nil_append]

theorem digitCount_pos : 0 < digitCount number := Nat.length_toDigits_pos

theorem digitCount_le_iff {count : Nat} (positive : 0 < count) :
    digitCount number ≤ count ↔ number < Nat.pow 10 count :=
  Nat.length_toDigits_le_iff (by decide) positive

theorem lt_pow_digitCount : number < Nat.pow 10 (digitCount number) :=
  (digitCount_le_iff digitCount_pos).mp (Nat.le_refl _)

theorem digitCount_digit (digit : number < 10) : digitCount number = 1 := by
  have most : digitCount number ≤ 1 := (digitCount_le_iff Nat.one_pos).mpr digit
  have least : 0 < digitCount number := digitCount_pos
  omega

theorem leading_digit (small : first < 10) (other : second < 10) :
    leading first second = second := by
  rw [leading, digitCount_digit small, digitCount_digit other]
  exact Nat.div_one second

theorem lt_toDigits_iff (length : digitCount first = digitCount second) :
    Nat.toDigits 10 first < Nat.toDigits 10 second ↔ first < second := by
  have same : (padded 0 first).toList.length = (padded 0 second).toList.length := by
    rw [toList_unpadded, toList_unpadded]
    exact length
  rw [← toList_unpadded, ← toList_unpadded, lt_iff_value_lt isDigit_padded isDigit_padded same,
    value_padded, value_padded]

theorem toDigits_inj (same : Nat.toDigits 10 first = Nat.toDigits 10 second) : first = second := by
  calc
    first = Nat.ofDigitChars 10 (Nat.toDigits 10 first) 0 := Nat.ofDigitChars_ten_toDigits.symm
    _ = Nat.ofDigitChars 10 (Nat.toDigits 10 second) 0 := by rw [same]
    _ = second := Nat.ofDigitChars_ten_toDigits

theorem toDigits_split {count : Nat} (enough : Nat.pow 10 count ≤ number) :
    ∃ tail, Nat.toDigits 10 number = Nat.toDigits 10 (number / Nat.pow 10 count) ++ tail ∧
      tail.length = count := by
  induction count with
  | zero => exact ⟨[], by simp, rfl⟩
  | succ count ih =>
      have grown : Nat.pow 10 (count + 1) = Nat.pow 10 count * 10 := rfl
      obtain ⟨tail, split, length⟩ := ih (by omega)
      let rest := number / Nat.pow 10 count
      have next : number / Nat.pow 10 (count + 1) = rest / 10 := by
        rw [grown, Nat.div_div_eq_div_mul]
      have some : 0 < rest / 10 := by
        rw [← next]
        exact Nat.div_pos enough (Nat.pow_pos (by decide))
      have digit : digitCount (rest % 10) = 1 := digitCount_digit (Nat.mod_lt _ (by decide))
      refine ⟨Nat.toDigits 10 (rest % 10) ++ tail, ?_, ?_⟩
      · rw [split, next, ← List.append_assoc,
          Nat.toDigits_append_toDigits (by decide) some (Nat.mod_lt _ (by decide)),
          Nat.div_add_mod]
      · rw [List.length_append, length]
        change digitCount (rest % 10) + count = _
        omega

/-- A number comes before a greater one if the first digits of that one are not less. -/
theorem toString_lt_iff (less : first < second) :
    (toString first).toList < (toString second).toList ↔ first ≤ leading first second := by
  let beyond := digitCount second - digitCount first
  have shorter : digitCount first ≤ digitCount second :=
    (digitCount_le_iff digitCount_pos).mpr (Nat.lt_trans less lt_pow_digitCount)
  have enough : Nat.pow 10 beyond ≤ second := by
    rcases Nat.eq_zero_or_pos beyond with none | some
    · rw [none]
      exact Nat.succ_le_of_lt (Nat.lt_of_le_of_lt (Nat.zero_le _) less)
    · have positive : 0 < digitCount first := digitCount_pos
      have longer : ¬ digitCount second ≤ beyond := by omega
      exact Nat.not_lt.mp (mt (digitCount_le_iff some).mpr longer)
  obtain ⟨tail, split, length⟩ := toDigits_split enough
  have same : digitCount first = digitCount (leading first second) := by
    have whole := congrArg List.length split
    rw [List.length_append, length] at whole
    change digitCount second = digitCount (leading first second) + beyond at whole
    omega
  have order : Nat.toDigits 10 first < Nat.toDigits 10 (leading first second) ++ tail ↔
      Nat.toDigits 10 first < Nat.toDigits 10 (leading first second) ∨
        Nat.toDigits 10 first = Nat.toDigits 10 (leading first second) ∧ [] < tail := by
    rw [← append_lt_append_iff same, List.append_nil]
  rw [toList_toString, toList_toString, split]
  refine order.trans ?_
  rw [lt_toDigits_iff same, Nat.le_iff_lt_or_eq]
  refine or_congr_right ⟨fun equal => toDigits_inj equal.1, fun equal => ?_⟩
  refine ⟨congrArg _ equal, ?_⟩
  cases tail with
  | cons digit rest => exact List.nil_lt_cons digit rest
  | nil =>
      -- Without digits behind them the first digits are the whole number.
      have whole : leading first second = second := by
        rw [leading, show digitCount second - digitCount first = 0 from length.symm]
        exact Nat.div_one second
      omega

end Settlement.Text.Decimal
