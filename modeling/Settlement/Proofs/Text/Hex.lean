import Mathlib.Data.List.Basic
import Settlement.Text.Hex

/-!
What hex digits denote. A letter is a digit in either case, two digits make an octet, and a text
is read if and only if it is made of such pairs. Texts denote the same octets if and only if they
differ at most in the case of their letters.
-/

namespace Settlement.Text.Hex

def alphabet : List Char :=
  ['0', '1', '2', '3', '4', '5', '6', '7', '8', '9', 'a', 'b', 'c', 'd', 'e', 'f']

def IsDigit (c : Char) : Prop := c.toLower ∈ alphabet

instance (c : Char) : Decidable (IsDigit c) := inferInstanceAs (Decidable (_ ∈ alphabet))

def value (c : Char) : Nat := alphabet.idxOf c.toLower

/-- The digits write these octets, two for each, the greater one first. -/
inductive Writes : List UInt8 → List Char → Prop where
  | nil : Writes [] []
  | cons {octet : UInt8} {octets : List UInt8} {high low : Char} {rest : List Char} :
      IsDigit high → IsDigit low → octet.toNat = 16 * value high + value low →
      Writes octets rest → Writes (octet :: octets) (high :: low :: rest)

section Digits

variable {c : Char}

theorem value_lt (digit : IsDigit c) : value c < 16 := List.idxOf_lt_length_of_mem digit

theorem value_inj {other : Char} (digit : IsDigit c) :
    value c = value other ↔ c.toLower = other.toLower := List.idxOf_inj digit

theorem toLower_of_not_ascii (beyond : 128 ≤ c.toNat) : c.toLower = c := by
  apply dif_neg
  rintro ⟨_, upper⟩
  have most : c.toNat ≤ 90 := upper
  omega

theorem ascii_of_isDigit (digit : IsDigit c) : c.toNat < 128 := by
  have small : ∀ other ∈ alphabet, other.toNat < 128 := by simp [alphabet]
  rcases Nat.lt_or_ge c.toNat 128 with ascii | beyond
  · exact ascii
  · rw [IsDigit, toLower_of_not_ascii beyond] at digit
    exact small c digit

theorem digit?_eq : digit? c = if IsDigit c then some (value c) else none := by
  have checked : ∀ code < 128, digit? (Char.ofNat code) =
      if IsDigit (Char.ofNat code) then some (value (Char.ofNat code)) else none := by decide
  rcases Nat.lt_or_ge c.toNat 128 with ascii | beyond
  · rw [← Char.ofNat_toNat c]
    exact checked _ ascii
  · rw [if_neg fun digit => absurd (ascii_of_isDigit digit) (Nat.not_lt.mpr beyond)]
    have above : ∀ most : Char, most.toNat < 128 → ¬ c ≤ most := by
      intro most less least
      have least : c.toNat ≤ most.toNat := least
      omega
    simp [digit?, above]

theorem digit?_eq_some_iff {n : Nat} : digit? c = some n ↔ IsDigit c ∧ value c = n := by
  rw [digit?_eq]
  split <;> simp [*]

end Digits

section Texts

variable {text other : List Char} {octets : List UInt8} {position : Nat}

theorem pairs_of_writes (writes : Writes octets text) : pairs position text = .ok octets := by
  induction writes generalizing position with
  | nil => rfl
  | @cons octet octets high low rest first second number _ ih =>
      have upper : digit? high = some (value high) := digit?_eq_some_iff.mpr ⟨first, rfl⟩
      have lower : digit? low = some (value low) := digit?_eq_some_iff.mpr ⟨second, rfl⟩
      rw [pairs.eq_def]
      simp only [upper, lower, ih]
      rw [← number, UInt8.ofNat_toNat]
      rfl

theorem writes_of_pairs (read : pairs position text = .ok octets) : Writes octets text := by
  fun_induction pairs position text generalizing octets with
  | case1 =>
      cases read
      exact .nil
  | case2 | case3 | case4 => cases read
  | case5 position high upper low rest first lower second ih =>
      obtain ⟨highDigit, highValue⟩ := digit?_eq_some_iff.mp first
      obtain ⟨lowDigit, lowValue⟩ := digit?_eq_some_iff.mp second
      cases later : pairs (position + 2) rest with
      | error fault =>
          rw [later] at read
          cases read
      | ok others =>
          rw [later] at read
          cases read
          have upperSmall := value_lt highDigit
          have lowerSmall := value_lt lowDigit
          refine .cons highDigit lowDigit ?_ (ih later)
          rw [UInt8.toNat_ofNat', highValue, lowValue]
          omega

theorem Writes.isDigit (writes : Writes octets text) : ∀ c ∈ text, IsDigit c := by
  induction writes with
  | nil => nofun
  | cons first second _ _ ih =>
      simp only [List.forall_mem_cons]
      exact ⟨first, second, ih⟩

theorem Writes.length (writes : Writes octets text) : text.length = 2 * octets.length := by
  induction writes with
  | nil => rfl
  | cons _ _ _ _ ih =>
      simp only [List.length_cons, ih]
      omega

theorem octetCount_of_digits (digits : ∀ c ∈ text, IsDigit c) : octetCount text = text.length := by
  have single : ∀ c ∈ text, c.utf8Size = 1 := by
    intro c member
    have ascii : c.toNat < 128 := ascii_of_isDigit (digits c member)
    refine Char.utf8Size_eq_one_iff.mpr ?_
    exact UInt32.le_iff_toNat_le.mpr (Nat.le_of_lt_succ ascii)
  rw [octetCount, List.map_congr_left single, List.map_const', ← List.sum_eq_foldl]
  simp

/-- A text is read if and only if it writes octets, and then as these. -/
theorem decode_eq_ok_iff : decode text = .ok octets ↔ Writes octets text := by
  unfold decode
  constructor
  · intro read
    split at read
    · cases read
    · exact writes_of_pairs read
  · intro writes
    rw [octetCount_of_digits writes.isDigit, writes.length, if_neg (by omega)]
    exact pairs_of_writes writes

theorem writes_octet {high low : Char} (first : IsDigit high) (second : IsDigit low) :
    ∃ octet : UInt8, octet.toNat = 16 * value high + value low := by
  have upper := value_lt first
  have lower := value_lt second
  refine ⟨UInt8.ofNat (16 * value high + value low), ?_⟩
  rw [UInt8.toNat_ofNat']
  omega

theorem exists_writes : ∀ {text : List Char}, 2 ∣ text.length → (∀ c ∈ text, IsDigit c) →
    ∃ octets, Writes octets text
  | [], _, _ => ⟨[], .nil⟩
  | [_], even, _ => absurd even (by rw [List.length_singleton]; decide)
  | high :: low :: rest, even, digits => by
      simp only [List.forall_mem_cons] at digits
      obtain ⟨first, second, digits⟩ := digits
      have shorter : 2 ∣ rest.length := (Nat.dvd_add_left (Nat.dvd_refl 2)).mp even
      obtain ⟨octet, number⟩ := writes_octet first second
      obtain ⟨octets, writes⟩ := exists_writes shorter digits
      exact ⟨octet :: octets, .cons first second number writes⟩

theorem exists_writes_iff :
    (∃ octets, Writes octets text) ↔ 2 ∣ text.length ∧ ∀ c ∈ text, IsDigit c := by
  constructor
  · rintro ⟨octets, writes⟩
    exact ⟨⟨octets.length, writes.length⟩, writes.isDigit⟩
  · rintro ⟨even, digits⟩
    exact exists_writes even digits

/-- Texts write the same octets if and only if they differ at most in case. -/
theorem Writes.same_iff {others : List UInt8} (first : Writes octets text)
    (second : Writes others other) :
    octets = others ↔ text.map Char.toLower = other.map Char.toLower := by
  induction first generalizing others other with
  | nil => cases second <;> simp
  | @cons octet octets high low text highDigit lowDigit number _ ih =>
      cases second with
      | nil => simp
      | @cons octet' others high' low' other highDigit' lowDigit' number' second =>
          have octet : octet = octet' ↔ value high = value high' ∧ value low = value low' := by
            have lower := value_lt lowDigit
            have lower' := value_lt lowDigit'
            rw [← UInt8.toNat_inj, number, number']
            omega
          simp only [List.map_cons, List.cons.injEq, octet, ih second, value_inj highDigit,
            value_inj lowDigit, and_assoc]

end Texts

end Settlement.Text.Hex
