import Settlement.Proofs.Text.Hex
import Settlement.Text.JsonString

/-!
Which texts are JSON strings, and what they denote. A character may stand for itself, apart from
quotes, backslashes and control characters, or be escaped by a letter, by its code, or by two
surrogates. A text that opens with a quote is read if and only if it is such a string with nothing
but blanks behind it, and then as what it denotes.
-/

namespace Settlement.Text.JsonString

def escapes : List (Char × Char) :=
  [('"', '"'), ('\\', '\\'), ('/', '/'), ('b', '\x08'), ('f', '\x0c'), ('n', '\n'), ('r', '\r'),
    ('t', '\t')]

def WritesUnit (unit : Nat) (digits : List Char) : Prop :=
  ∃ first second : UInt8, Hex.Writes [first, second] digits ∧
    unit = 256 * first.toNat + second.toNat

/-- What may be written for a character. -/
inductive Spells : Char → List Char → Prop where
  | itself {c : Char} (quote : c ≠ '"') (backslash : c ≠ '\\') (printed : 0x20 ≤ c.toNat) :
      Spells c [c]
  | letter {c letter : Char} (listed : (letter, c) ∈ escapes) : Spells c ['\\', letter]
  | code {c : Char} {digits : List Char} (writes : WritesUnit c.toNat digits) :
      Spells c ('\\' :: 'u' :: digits)
  | surrogates {c : Char} {leading trailing : Nat} {first second : List Char}
      (leads : 0xD800 ≤ leading ∧ leading < 0xDC00) (trails : 0xDC00 ≤ trailing ∧ trailing < 0xE000)
      (value : c.toNat = 0x10000 + (leading - 0xD800) * 0x400 + (trailing - 0xDC00))
      (writesFirst : WritesUnit leading first) (writesSecond : WritesUnit trailing second) :
      Spells c ('\\' :: 'u' :: first ++ '\\' :: 'u' :: second)

inductive SpellsAll : List Char → List Char → Prop where
  | nil : SpellsAll [] []
  | cons {c : Char} {text spelled more : List Char} :
      Spells c spelled → SpellsAll text more → SpellsAll (c :: text) (spelled ++ more)

/-- The value is one whole string that denotes the text, with blanks at most behind it. -/
def Denotes (value text : String) : Prop :=
  ∃ spelled blanks, value.toList = '"' :: spelled ++ '"' :: blanks ∧
    (∀ c ∈ blanks, c ∈ [' ', '\n', '\r', '\t']) ∧ SpellsAll text.toList spelled

section Units

variable {a b c d : Char} {unit : Nat} {digits : List Char}

theorem hexDigit?_eq_some_iff {n : Nat} : hexDigit? c = some n ↔ Hex.IsDigit c ∧ Hex.value c = n :=
  Hex.digit?_eq_some_iff

theorem unit?_eq_some_iff : unit? a b c d = some unit ↔ WritesUnit unit [a, b, c, d] := by
  simp only [unit?, Option.bind_eq_bind, Option.bind_eq_some_iff, hexDigit?_eq_some_iff]
  constructor
  · rintro ⟨_, ⟨digitA, rfl⟩, _, ⟨digitB, rfl⟩, _, ⟨digitC, rfl⟩, _, ⟨digitD, rfl⟩, same⟩
    obtain ⟨first, upper⟩ := Hex.writes_octet digitA digitB
    obtain ⟨second, lower⟩ := Hex.writes_octet digitC digitD
    refine ⟨first, second, .cons digitA digitB upper (.cons digitC digitD lower .nil), ?_⟩
    cases same
    omega
  · rintro ⟨first, second, writes, rfl⟩
    obtain _ | ⟨digitA, digitB, upper, writes⟩ := writes
    obtain _ | ⟨digitC, digitD, lower, _⟩ := writes
    refine ⟨_, ⟨digitA, rfl⟩, _, ⟨digitB, rfl⟩, _, ⟨digitC, rfl⟩, _, ⟨digitD, rfl⟩, ?_⟩
    refine congrArg some ?_
    omega

theorem WritesUnit.four (writes : WritesUnit unit digits) :
    ∃ a b c d, digits = [a, b, c, d] ∧ unit? a b c d = some unit := by
  have written := writes
  obtain ⟨_, _, octets, _⟩ := written
  obtain _ | ⟨_, _, _, octets⟩ := octets
  obtain _ | ⟨_, _, _, octets⟩ := octets
  obtain _ | _ := octets
  exact ⟨_, _, _, _, rfl, unit?_eq_some_iff.mpr writes⟩

end Units

section Characters

variable {c : Char} {unit : Nat} {spelled rest : List Char}

theorem escaped?_eq_some_iff {letter : Char} :
    escaped? letter = some c ↔ (letter, c) ∈ escapes := by
  unfold escaped?
  split <;> simp_all [escapes, eq_comm]

theorem isLeading_iff : isLeading unit = true ↔ 0xD800 ≤ unit ∧ unit < 0xDC00 := by
  rw [isLeading, Bool.and_eq_true, decide_eq_true_iff, decide_eq_true_iff]

theorem isTrailing_iff : isTrailing unit = true ↔ 0xDC00 ≤ unit ∧ unit < 0xE000 := by
  rw [isTrailing, Bool.and_eq_true, decide_eq_true_iff, decide_eq_true_iff]

theorem not_surrogate (c : Char) : ¬ isLeading c.toNat ∧ ¬ isTrailing c.toNat := by
  have valid : c.toNat < 0xD800 ∨ 0xDFFF < c.toNat ∧ c.toNat < 0x110000 := c.valid
  rw [isLeading_iff, isTrailing_iff]
  omega

theorem WritesUnit.lt {digits : List Char} (writes : WritesUnit unit digits) : unit < 0x10000 := by
  obtain ⟨first, second, _, rfl⟩ := writes
  have upper := first.toNat_lt
  have lower := second.toNat_lt
  omega

theorem toNat_ofNat (valid : unit.isValidChar) : (Char.ofNat unit).toNat = unit := by
  rw [Char.ofNat, dif_pos valid]
  rfl

theorem character?_of_spells (spells : Spells c spelled) (rest : List Char) :
    character? (spelled ++ rest) = some (c, rest) := by
  cases spells with
  | itself quote backslash printed =>
      have control : isControl c = false := decide_eq_false (Nat.not_lt.mpr printed)
      simp [character?, backslash, control]
  | @letter letter listed =>
      have known : escaped? letter = some c := escaped?_eq_some_iff.mpr listed
      have other : letter ≠ 'u' := by
        rintro rfl
        cases known
      simp [character?, other, known]
  | code writes =>
      obtain ⟨a, b, c', d, rfl, told⟩ := writes.four
      obtain ⟨leading, trailing⟩ := not_surrogate c
      simp [character?, told, leading, trailing]
  | @surrogates leading trailing _ _ leads trails value writesFirst writesSecond =>
      obtain ⟨a, b, c', d, rfl, first⟩ := writesFirst.four
      obtain ⟨e, f, g, h, rfl, second⟩ := writesSecond.four
      have notTrailing : ¬ isTrailing leading := by
        rw [isTrailing_iff]
        omega
      have leads : isLeading leading := isLeading_iff.mpr leads
      have trails : isTrailing trailing := isTrailing_iff.mpr trails
      have value : c.toNat = pairValue leading trailing := value
      have same : Char.ofNat (pairValue leading trailing) = c := by rw [← value, Char.ofNat_toNat]
      simp [character?, first, second, notTrailing, leads, trails, same]

theorem spells_code {a b c d : Char} (told : unit? a b c d = some unit)
    (leads : ¬ isLeading unit) (trails : ¬ isTrailing unit) :
    Spells (Char.ofNat unit) ['\\', 'u', a, b, c, d] := by
  have writes : WritesUnit unit [a, b, c, d] := unit?_eq_some_iff.mp told
  have small := writes.lt
  rw [isLeading_iff] at leads
  rw [isTrailing_iff] at trails
  refine .code ?_
  rw [toNat_ofNat (by unfold Nat.isValidChar; omega)]
  exact writes

theorem spells_pair {a b c d e f g h : Char} {partner : Nat} (told : unit? a b c d = some unit)
    (also : unit? e f g h = some partner) (leads : isLeading unit) (trails : isTrailing partner) :
    Spells (Char.ofNat (pairValue unit partner))
      ['\\', 'u', a, b, c, d, '\\', 'u', e, f, g, h] := by
  rw [isLeading_iff] at leads
  rw [isTrailing_iff] at trails
  have valid : (pairValue unit partner).isValidChar := .inr (by unfold pairValue; omega)
  exact .surrogates leads trails (toNat_ofNat valid) (unit?_eq_some_iff.mp told)
    (unit?_eq_some_iff.mp also)

theorem spells_of_character? {text : List Char} (read : character? text = some (c, rest))
    (inside : text.head? ≠ some '"') : ∃ spelled, text = spelled ++ rest ∧ Spells c spelled := by
  unfold character? at read
  split at read
  · simp only [Option.bind_eq_bind, Option.bind_eq_some_iff] at read
    obtain ⟨unit, told, read⟩ := read
    -- Of surrogates only a pair is read, the leading one first.
    split at read
    · cases read
    · rename_i trails
      split at read
      · rename_i leads
        split at read
        · simp only [Option.bind_eq_some_iff] at read
          obtain ⟨partner, also, read⟩ := read
          split at read
          · rename_i partnerTrails
            obtain ⟨rfl, rfl⟩ := Prod.mk.inj (Option.some.inj read)
            exact ⟨_ :: _ :: _ :: _ :: _ :: _ :: _ :: _ :: _ :: _ :: _ :: [_], rfl,
              spells_pair told also leads partnerTrails⟩
          · cases read
        · cases read
      · rename_i leads
        cases read
        exact ⟨_ :: _ :: _ :: _ :: _ :: [_], rfl, spells_code told leads trails⟩
  · obtain ⟨_, known, same⟩ := Option.map_eq_some_iff.mp read
    cases same
    exact ⟨_ :: [_], rfl, .letter (escaped?_eq_some_iff.mp known)⟩
  · split at read
    · cases read
    · rename_i allowed
      cases read
      simp only [isControl, Bool.or_eq_true, decide_eq_true_eq, not_or, Nat.not_lt] at allowed
      refine ⟨[c], rfl, .itself ?_ allowed.1 allowed.2⟩
      rintro rfl
      exact inside rfl
  · cases read

end Characters

section Bodies

variable {text spelled rest behind : List Char}

theorem Spells.inside {c : Char} (spells : Spells c spelled) (rest : List Char) :
    (spelled ++ rest).head? ≠ some '"' := by
  cases spells with
  | itself quote => simpa using quote
  | letter | code | surrogates => simp

/-- A body is read up to the first quote outside of what spells a character. -/
theorem body?_of_spellsAll (spells : SpellsAll text spelled) (behind : List Char) :
    body? (spelled ++ '"' :: behind) = some (text, behind) := by
  induction spells with
  | nil => rw [List.nil_append, body?]
  | @cons c text first spelled spells _ ih =>
      have read := character?_of_spells spells (spelled ++ '"' :: behind)
      have inside := spells.inside (spelled ++ '"' :: behind)
      rw [List.append_assoc, body?.eq_def]
      split
      · rename_i opens
        rw [opens] at inside
        exact absurd rfl inside
      · split
        · rename_i unread
          rw [read] at unread
          cases unread
        · rename_i told
          rw [read] at told
          cases told
          rw [ih]
          rfl

theorem spellsAll_of_body? {written : List Char} (read : body? written = some (text, behind)) :
    ∃ spelled, written = spelled ++ '"' :: behind ∧ SpellsAll text spelled := by
  fun_induction body? written generalizing text with
  | case1 rest =>
      cases read
      exact ⟨[], rfl, .nil⟩
  | case2 => cases read
  | case3 written outside c rest told _ ih =>
      obtain ⟨⟨characters, behind'⟩, later, same⟩ := Option.map_eq_some_iff.mp read
      cases same
      obtain ⟨more, rfl, spellsMore⟩ := ih later
      have inside : written.head? ≠ some '"' := by
        intro opens
        obtain ⟨rest, rfl⟩ := List.head?_eq_some_iff.mp opens
        exact outside rest rfl
      obtain ⟨first, rfl, spells⟩ := spells_of_character? told inside
      exact ⟨first ++ more, by simp, .cons spells spellsMore⟩

end Bodies

section Values

variable {value text : String}

theorem isBlank_iff {c : Char} : isBlank c ↔ c ∈ [' ', '\n', '\r', '\t'] := by
  simp [isBlank, or_assoc]

theorem Denotes.opens (denotes : Denotes value text) : value.toList.head? = some '"' := by
  obtain ⟨spelled, blanks, same, _⟩ := denotes
  rw [same]
  rfl

/-- A value that opens with a quote is read if and only if it is a string, and as what it
denotes. -/
theorem decode?_eq_some_iff (opens : value.toList.head? = some '"') :
    decode? value = some text ↔ Denotes value text := by
  obtain ⟨written, opens⟩ := List.head?_eq_some_iff.mp opens
  have blank : ¬ isBlank '"' := by decide
  rw [decode?, Denotes, opens, List.dropWhile_cons_of_neg blank]
  constructor
  · intro read
    cases told : body? written with
    | none =>
        simp only [told] at read
        cases read
    | some found =>
        obtain ⟨characters, behind⟩ := found
        simp only [told] at read
        split at read
        · rename_i blanks
          cases read
          obtain ⟨spelled, rfl, spells⟩ := spellsAll_of_body? told
          refine ⟨spelled, behind, rfl, ?_, ?_⟩
          · intro c member
            exact isBlank_iff.mp (List.all_eq_true.mp blanks c member)
          · rwa [String.toList_ofList]
        · cases read
  · rintro ⟨spelled, behind, same, blanks, spells⟩
    have same : written = spelled ++ '"' :: behind := List.tail_eq_of_cons_eq same
    have trailing : behind.all isBlank :=
      List.all_eq_true.mpr fun c member => isBlank_iff.mpr (blanks c member)
    simp only [same, body?_of_spellsAll spells behind, trailing, if_true, String.ofList_toList]

/-- The clef, whose code takes two surrogates. -/
example : Denotes "\"\\uD834\\udd1e\" " "𝄞" :=
  ⟨"\\uD834\\udd1e".toList, [' '], by decide, by simp,
    .cons (.surrogates (by decide) (by decide) (by decide) (unit?_eq_some_iff.mp rfl)
      (unit?_eq_some_iff.mp rfl)) .nil⟩

theorem Denotes.unique {other : String} (first : Denotes value text)
    (second : Denotes value other) : text = other := by
  have told := (decode?_eq_some_iff first.opens).mpr first
  rw [(decode?_eq_some_iff first.opens).mpr second] at told
  exact (Option.some.inj told).symm

theorem spells_encodeCharacter (c : Char) : Spells c (encodeCharacter c) := by
  unfold encodeCharacter
  split
  · rename_i quoted
    obtain rfl | rfl : c = '"' ∨ c = '\\' := by simpa using quoted
    all_goals exact .letter (by decide)
  split
  · rename_i same
    exact same ▸ .letter (by decide)
  split
  · rename_i same
    exact same ▸ .letter (by decide)
  split
  · rename_i same
    exact same ▸ .letter (by decide)
  split
  · rename_i control
    have small : c.toNat < 0x20 := of_decide_eq_true control
    have told : ∀ code < 0x20,
        unit? '0' '0' (hexDigit (code / 16)) (hexDigit (code % 16)) = some code := by decide
    exact .code (unit?_eq_some_iff.mp (told _ small))
  · rename_i inside _ _ _ control
    simp only [Bool.or_eq_true, decide_eq_true_eq, not_or] at inside
    exact .itself inside.1 inside.2 (Nat.not_lt.mp fun small => control (decide_eq_true small))

theorem spellsAll_flatMap : ∀ text : List Char, SpellsAll text (text.flatMap encodeCharacter)
  | [] => .nil
  | c :: text => .cons (spells_encodeCharacter c) (spellsAll_flatMap text)

theorem denotes_encode (text : String) : Denotes (encode text) text :=
  ⟨text.toList.flatMap encodeCharacter, [], String.toList_ofList, nofun, spellsAll_flatMap _⟩

end Values

end Settlement.Text.JsonString
