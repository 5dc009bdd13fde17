/-!
JSON string texts. Reading takes a text from its opening to its closing quote and
refuses raw control characters, unknown escapes and surrogates without a partner;
writing escapes only what has to be escaped.
-/

namespace Settlement.Text.JsonString

def isBlank (c : Char) : Bool := c = ' ' || c = '\n' || c = '\r' || c = '\t'

def trim (text : List Char) : List Char :=
  ((text.dropWhile isBlank).reverse.dropWhile isBlank).reverse

def isControl (c : Char) : Bool := c.toNat < 0x20

def hexDigit? (c : Char) : Option Nat :=
  if '0' ≤ c ∧ c ≤ '9' then some (c.toNat - '0'.toNat)
  else if 'a' ≤ c ∧ c ≤ 'f' then some (c.toNat - 'a'.toNat + 10)
  else if 'A' ≤ c ∧ c ≤ 'F' then some (c.toNat - 'A'.toNat + 10)
  else none

def unit? (a b c d : Char) : Option Nat := do
  return ((← hexDigit? a) * 16 + (← hexDigit? b)) * 256 + (← hexDigit? c) * 16 + (← hexDigit? d)

def isLeading (unit : Nat) : Bool := 0xD800 ≤ unit && unit < 0xDC00

def isTrailing (unit : Nat) : Bool := 0xDC00 ≤ unit && unit < 0xE000

def pairValue (leading trailing : Nat) : Nat :=
  0x10000 + (leading - 0xD800) * 0x400 + (trailing - 0xDC00)

def escaped? : Char → Option Char
  | '"' => some '"'
  | '\\' => some '\\'
  | '/' => some '/'
  | 'b' => some '\x08'
  | 'f' => some '\x0c'
  | 'n' => some '\n'
  | 'r' => some '\r'
  | 't' => some '\t'
  | _ => none

/-- One character of a string text and what stands behind it. A surrogate needs its partner. -/
def character? : List Char → Option (Char × List Char)
  | '\\' :: 'u' :: a :: b :: c :: d :: rest => do
      let unit ← unit? a b c d
      if isTrailing unit then none
      else if isLeading unit then
        match rest with
        | '\\' :: 'u' :: e :: f :: g :: h :: rest => do
            let partner ← unit? e f g h
            if isTrailing partner then some (Char.ofNat (pairValue unit partner), rest) else none
        | _ => none
      else some (Char.ofNat unit, rest)
  | '\\' :: c :: rest => (escaped? c).map (·, rest)
  | c :: rest => if c = '\\' || isControl c then none else some (c, rest)
  | [] => none

theorem character_shorter (text rest : List Char) (c : Char)
    (read : character? text = some (c, rest)) : rest.length < text.length := by
  unfold character? at read
  split at read
  · rename_i tail
    simp only [Option.bind_eq_bind, Option.bind_eq_some_iff] at read
    obtain ⟨_, _, read⟩ := read
    split at read
    · simp at read
    · split at read
      · split at read
        · simp only [Option.bind_eq_some_iff] at read
          obtain ⟨_, _, read⟩ := read
          split at read
          · simp only [Option.some.injEq, Prod.mk.injEq] at read
            simp only [← read.2, List.length_cons]; omega
          · simp at read
        · simp at read
      · simp only [Option.some.injEq, Prod.mk.injEq] at read
        simp only [← read.2, List.length_cons]; omega
  · simp only [Option.map_eq_some_iff, Prod.mk.injEq] at read
    obtain ⟨_, _, _, same⟩ := read
    simp only [← same, List.length_cons]; omega
  · split at read
    · simp at read
    · simp only [Option.some.injEq, Prod.mk.injEq] at read
      simp only [← read.2, List.length_cons]; omega
  · simp at read

def body? (text : List Char) : Option (List Char × List Char) :=
  match text with
  | '"' :: rest => some ([], rest)
  | text =>
    match read : character? text with
    | none => none
    | some (c, rest) =>
        have := character_shorter text rest c read
        (body? rest).map fun (characters, behind) => (c :: characters, behind)
termination_by text.length

def decode? (text : String) : Option String :=
  match text.toList.dropWhile isBlank with
  | '"' :: rest =>
      match body? rest with
      | some (characters, behind) =>
          if behind.all isBlank then some (String.ofList characters) else none
      | none => none
  | _ => none

def hexDigit (n : Nat) : Char :=
  if n < 10 then Char.ofNat ('0'.toNat + n) else Char.ofNat ('a'.toNat + n - 10)

def encodeCharacter (c : Char) : List Char :=
  if c = '"' || c = '\\' then ['\\', c]
  else if c = '\n' then ['\\', 'n']
  else if c = '\r' then ['\\', 'r']
  else if c = '\t' then ['\\', 't']
  else if isControl c then ['\\', 'u', '0', '0', hexDigit (c.toNat / 16), hexDigit (c.toNat % 16)]
  else [c]

def encode (text : String) : String :=
  String.ofList ('"' :: text.toList.flatMap encodeCharacter ++ ['"'])

end Settlement.Text.JsonString
