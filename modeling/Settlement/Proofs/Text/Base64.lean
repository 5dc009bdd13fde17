import Settlement.Text.Base64

/-!
What is written in Base64 is read back as the octets that were written, whether the last group
has one, two or three of them.
-/

namespace Settlement.Text.Base64

variable {octets : List UInt8} {sextet : Nat}

theorem sextet?_symbol (small : sextet < 64) : sextet? (symbol sextet) = some sextet := by
  have checked : ∀ sextet < 64, sextet? (symbol sextet) = some sextet := by decide
  exact checked sextet small

theorem symbol_ne (small : sextet < 64) : symbol sextet ≠ '=' := by
  intro same
  have read := sextet?_symbol small
  rw [same] at read
  cases read

theorem sextets (a b c : UInt8) :
    sextet? (symbol (a.toNat / 4)) = some (a.toNat / 4) ∧
    sextet? (symbol (a.toNat % 4 * 16 + b.toNat / 16)) = some (a.toNat % 4 * 16 + b.toNat / 16) ∧
    sextet? (symbol (b.toNat % 16 * 4 + c.toNat / 64)) = some (b.toNat % 16 * 4 + c.toNat / 64) ∧
    sextet? (symbol (c.toNat % 64)) = some (c.toNat % 64) := by
  have small : a.toNat < 256 ∧ b.toNat < 256 ∧ c.toNat < 256 :=
    ⟨a.toNat_lt_size, b.toNat_lt_size, c.toNat_lt_size⟩
  refine ⟨?_, ?_, ?_, ?_⟩ <;> exact sextet?_symbol (by omega)

theorem group_octets (a b c : UInt8) :
    UInt8.ofNat (a.toNat / 4 * 4 + (a.toNat % 4 * 16 + b.toNat / 16) / 16) = a ∧
    UInt8.ofNat ((a.toNat % 4 * 16 + b.toNat / 16) % 16 * 16 +
      (b.toNat % 16 * 4 + c.toNat / 64) / 4) = b ∧
    UInt8.ofNat ((b.toNat % 16 * 4 + c.toNat / 64) % 4 * 64 + c.toNat % 64) = c := by
  have small : a.toNat < 256 ∧ b.toNat < 256 ∧ c.toNat < 256 :=
    ⟨a.toNat_lt_size, b.toNat_lt_size, c.toNat_lt_size⟩
  simp only [← UInt8.toNat_inj, UInt8.toNat_ofNat']
  omega

theorem decode?_encode (octets : List UInt8) : decode? (encode octets) = some octets := by
  fun_induction encode octets with
  | case1 => rfl
  | case2 a =>
      -- A group that is not full is one whose other octets are zero.
      obtain ⟨first, second, _, _⟩ := sextets a 0 0
      have read := (group_octets a 0 0).1
      simp only [UInt8.toNat_zero, Nat.zero_div, Nat.add_zero] at second read
      simp only [decode?, first, second, Option.bind_eq_bind, Option.bind_some, read]
      rfl
  | case3 a b =>
      obtain ⟨first, second, third, _⟩ := sextets a b 0
      have read := group_octets a b 0
      have filled : symbol (b.toNat % 16 * 4) ≠ '=' := symbol_ne (by omega)
      simp only [UInt8.toNat_zero, Nat.zero_div, Nat.add_zero] at third read
      rw [decode?.eq_3 _ _ _ filled]
      simp only [first, second, third, Option.bind_eq_bind, Option.bind_some, read]
      rfl
  | case4 a b c rest ih =>
      obtain ⟨first, second, third, fourth⟩ := sextets a b c
      have filled : symbol (c.toNat % 64) ≠ '=' := symbol_ne (by omega)
      rw [decode?.eq_4 _ _ _ _ _ (fun _ last _ => filled last) (fun last _ => filled last)]
      simp only [first, second, third, fourth, ih, Option.bind_eq_bind, Option.bind_some,
        group_octets a b c]
      rfl

theorem encode_injective {others : List UInt8} (same : encode octets = encode others) :
    octets = others := by
  have read := decode?_encode octets
  rw [same, decode?_encode] at read
  exact (Option.some.inj read).symm

end Settlement.Text.Base64
