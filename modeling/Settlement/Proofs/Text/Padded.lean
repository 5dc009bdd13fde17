import Settlement.Text.Decimal

/-!
A number written with leading zeros: its digits, how many there are, and their value. Numbers
of one width are ordered as their texts.
-/

namespace Settlement.Text.Decimal

variable {width number : Nat}

theorem toList_padded :
    (padded width number).toList =
      List.replicate (width - (Nat.toDigits 10 number).length) '0' ++ Nat.toDigits 10 number := by
  have zeros : ∀ count, ("".pushn '0' count).toList = List.replicate count '0' := by
    intro count
    rw [String.pushn_eq_repeat_push]
    induction count with
    | zero => rfl
    | succ count ih => rw [Nat.repeat, String.toList_push, ih, List.replicate_succ']
  simp only [padded, String.toList_append, zeros, Nat.toString_eq_repr, Nat.toList_repr]
  rw [← String.length_toList, Nat.toList_repr]

theorem isDigit_padded : (padded width number).toList.all isDigit = true := by
  rw [toList_padded, List.all_append, Bool.and_eq_true]
  constructor
  · simp [isDigit]
  · refine List.all_eq_true.mpr fun c member => ?_
    have digit := Nat.isDigit_of_mem_toDigits (by decide) (by decide) member
    simpa [isDigit, Char.isDigit, Char.le_def] using digit

theorem value_padded : value (padded width number).toList = number := by
  have same : ∀ digits, value digits = Nat.ofDigitChars 10 digits 0 := fun _ => rfl
  rw [same, toList_padded, Nat.ofDigitChars_append, Nat.ofDigitChars_replicate_zero, Nat.mul_zero,
    Nat.ofDigitChars_ten_toDigits]

theorem length_padded (positive : 0 < width) (small : number < Nat.pow 10 width) :
    (padded width number).toList.length = width := by
  have most := (Nat.length_toDigits_le_iff (by decide) positive).mpr small
  rw [toList_padded, List.length_append, List.length_replicate]
  omega

theorem length_padded_pos : 0 < (padded width number).toList.length := by
  have digits : 0 < (Nat.toDigits 10 number).length := Nat.length_toDigits_pos
  rw [toList_padded, List.length_append]
  omega

theorem digitValue_lt {c d : Char} (digit : isDigit c = true) (other : isDigit d = true) :
    (c < d ↔ digitValue c < digitValue d) ∧ (c = d ↔ digitValue c = digitValue d) := by
  simp only [isDigit, Bool.and_eq_true, decide_eq_true_eq, Char.le_def,
    UInt32.le_iff_toNat_le] at digit other
  have least : 48 ≤ c.toNat := digit.1
  have above : 48 ≤ d.toNat := other.1
  have value : ∀ c : Char, digitValue c = c.toNat - 48 := fun _ => rfl
  have less : c < d ↔ c.toNat < d.toNat := UInt32.lt_iff_toNat_lt
  rw [less, ← Char.toNat_inj, value, value]
  omega

theorem digitValue_le {c : Char} (digit : isDigit c = true) : digitValue c ≤ 9 := by
  simp only [isDigit, Bool.and_eq_true, decide_eq_true_eq, Char.le_def,
    UInt32.le_iff_toNat_le] at digit
  have greatest : c.toNat ≤ 57 := digit.2
  exact Nat.sub_le_of_le_add greatest

theorem value_cons (c : Char) (digits : List Char) :
    value (c :: digits) = digitValue c * Nat.pow 10 digits.length + value digits := by
  have same : ∀ digits, value digits = Nat.ofDigitChars 10 digits 0 := fun _ => rfl
  rw [same, Nat.ofDigitChars_cons, Nat.ofDigitChars_eq_ofDigitChars_zero, same, Nat.mul_zero,
    Nat.zero_add, Nat.mul_comm]
  rfl

theorem value_lt_pow {digits : List Char} (all : digits.all isDigit = true) :
    value digits < Nat.pow 10 digits.length := by
  induction digits with
  | nil => decide
  | cons c rest ih =>
      rw [List.all_cons, Bool.and_eq_true] at all
      have tail := ih all.2
      have bound := Nat.mul_le_mul_right (Nat.pow 10 rest.length) (digitValue_le all.1)
      have grown : Nat.pow 10 (rest.length + 1) = Nat.pow 10 rest.length * 10 := rfl
      rw [value_cons, List.length_cons, grown]
      omega

theorem place_lt_iff {radix first second low high : Nat} (small : low < radix)
    (other : high < radix) : first * radix + low < second * radix + high ↔
      first < second ∨ first = second ∧ low < high := by
  -- A greater place outweighs all that stands behind it.
  rcases Nat.lt_trichotomy first second with less | rfl | greater
  · have bound := Nat.mul_le_mul_right radix less
    rw [Nat.succ_mul] at bound
    omega
  · omega
  · have bound := Nat.mul_le_mul_right radix greater
    rw [Nat.succ_mul] at bound
    omega

theorem lt_iff_value_lt {first second : List Char} (digits : first.all isDigit = true)
    (others : second.all isDigit = true) (length : first.length = second.length) :
    first < second ↔ value first < value second := by
  induction first generalizing second with
  | nil =>
      obtain rfl : second = [] := List.eq_nil_of_length_eq_zero length.symm
      simp
  | cons c first ih =>
      cases second with
      | nil => cases length
      | cons d second =>
          rw [List.all_cons, Bool.and_eq_true] at digits others
          rw [List.length_cons, List.length_cons, Nat.succ_inj] at length
          obtain ⟨less, same⟩ := digitValue_lt digits.1 others.1
          have small := value_lt_pow digits.2
          rw [length] at small
          rw [List.cons_lt_cons_iff, ih digits.2 others.2 length, less, same, value_cons,
            value_cons, length, place_lt_iff small (value_lt_pow others.2)]

theorem append_lt_append_iff {first second rest tail : List Char}
    (length : first.length = second.length) :
    first ++ rest < second ++ tail ↔ first < second ∨ first = second ∧ rest < tail := by
  induction first generalizing second with
  | nil =>
      obtain rfl : second = [] := List.eq_nil_of_length_eq_zero length.symm
      simp
  | cons c first ih =>
      cases second with
      | nil => cases length
      | cons d second =>
          rw [List.length_cons, List.length_cons, Nat.succ_inj] at length
          simp only [List.cons_append, List.cons_lt_cons_iff, ih length, List.cons.injEq,
            and_or_left, or_assoc, and_assoc]

theorem padded_append_lt_iff {first second : Nat} (positive : 0 < width)
    (small : first < Nat.pow 10 width) (other : second < Nat.pow 10 width)
    (rest tail : List Char) :
    (padded width first).toList ++ rest < (padded width second).toList ++ tail ↔
      first < second ∨ first = second ∧ rest < tail := by
  have length := (length_padded positive small).trans (length_padded positive other).symm
  have same : (padded width first).toList = (padded width second).toList ↔ first = second := by
    constructor
    · intro equal
      calc
        first = value (padded width first).toList := value_padded.symm
        _ = value (padded width second).toList := by rw [equal]
        _ = second := value_padded
    · rintro rfl
      rfl
  rw [append_lt_append_iff length, lt_iff_value_lt isDigit_padded isDigit_padded length,
    value_padded, value_padded, same]

end Settlement.Text.Decimal
