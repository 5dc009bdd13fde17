import Settlement.Text.Printable

/-!
Texts and characters in quotes, as messages show them. What is in the quotes stays
readable on one line: quotes, backslashes, line ends and all that is not printable are
escaped.
-/

namespace Settlement.Text.Quoted

def hexDigits (n : Nat) : List Char := Nat.toDigits 16 n

def escaped (quote c : Char) : List Char :=
  if c = '\x00' then ['\\', '0']
  else if c = '\t' then ['\\', 't']
  else if c = '\n' then ['\\', 'n']
  else if c = '\r' then ['\\', 'r']
  else if c = '\\' || c = quote then ['\\', c]
  else if isPrintable c then [c]
  else ['\\', 'u', '{'] ++ hexDigits c.toNat ++ ['}']

def text (value : String) : String :=
  String.ofList ('"' :: value.toList.flatMap (escaped '"') ++ ['"'])

def character (value : Char) : String :=
  String.ofList ('\'' :: escaped '\'' value ++ ['\''])

end Settlement.Text.Quoted
