import Settlement.Text.Percent

/-!
The query part of an address: named values between ampersands, where a plus sign is a
space and a percent sign with two hex digits an octet.
-/

namespace Settlement.Api.Form

open Text

def plain (text : List Char) : String :=
  (Percent.decode? (text.map fun c => if c = '+' then ' ' else c)).getD "\uFFFD"

def pair (text : List Char) : String × String :=
  (plain (text.takeWhile (· ≠ '=')), plain ((text.dropWhile (· ≠ '=')).drop 1))

def pairs (text : List Char) : List (String × String) :=
  ((text.splitOn '&').filter fun part => !part.isEmpty).map pair

end Settlement.Api.Form
