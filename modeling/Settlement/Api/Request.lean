/-!
Requests as their first line states them. A target is a path with its query, a whole web
address, of which the path and query count, or an authority alone, which names no path.
Each part has characters of its own, and a text that breaks its rules is no target.
-/

namespace Settlement.Api

/-- What a scan of an authority has met. A closing bracket and an at sign each begin a new
part, in which colons and percent signs are counted afresh. -/
structure AuthorityScan where
  colons : Nat
  isOpened : Bool
  isClosed : Bool
  hasPercent : Bool

namespace AuthorityScan

def start : AuthorityScan := ⟨0, false, false, false⟩

def isMark (c : Char) : Bool := c.isAlphanum || "!$&'()*+,-.;=_~".toList.contains c

def next? (scan : AuthorityScan) : Char → Option AuthorityScan
  | ':' => if scan.colons < 8 then some { scan with colons := scan.colons + 1 } else none
  | '[' =>
      if scan.hasPercent || scan.isOpened then none else some { scan with isOpened := true }
  | ']' => if scan.isOpened && !scan.isClosed then some ⟨0, true, true, false⟩ else none
  | '@' => some { scan with colons := 0, hasPercent := false }
  | '%' => some { scan with hasPercent := true }
  | c => if isMark c then some scan else none

def isComplete (scan : AuthorityScan) : Bool :=
  scan.isOpened = scan.isClosed && scan.colons ≤ 1 && !scan.hasPercent

end AuthorityScan

structure Target where
  path : List Char
  query : List Char
  deriving DecidableEq

namespace Target

def isAuthority (text : List Char) : Bool :=
  (text.foldlM AuthorityScan.next? .start).any AuthorityScan.isComplete &&
    text.getLast? ≠ some '@'

def isPathMark (c : Char) : Bool := 0x20 < c.toNat && !"<>`".toList.contains c

def isQueryMark (c : Char) : Bool := 0x20 < c.toNat && !"\"<>".toList.contains c

/-- A path, and after a question mark a query. What follows a number sign does not count,
and the empty path is the root. -/
def ofPath? (text : List Char) : Option Target :=
  let text := text.takeWhile (· ≠ '#')
  let path := text.takeWhile (· ≠ '?')
  let query := (text.dropWhile (· ≠ '?')).drop 1
  if path.all isPathMark && query.all isQueryMark then
    some ⟨if path.isEmpty then ['/'] else path, query⟩
  else none

def isSchemeMark (c : Char) : Bool := c.isAlphanum || "+-.".toList.contains c

def schemeEnd : List Char := "://".toList

def longestScheme : Nat := 64

def ofAddress? (text : List Char) : Option Target :=
  let scheme := text.takeWhile isSchemeMark
  let rest := text.dropWhile isSchemeMark
  if schemeEnd.isPrefixOf rest then
    let place := (rest.drop schemeEnd.length).takeWhile fun c => !"/?#".toList.contains c
    if scheme.length ≤ longestScheme && !place.isEmpty && isAuthority place then
      ofPath? (rest.drop (schemeEnd.length + place.length))
    else none
  else if !text.isEmpty && isAuthority text then some ⟨[], []⟩
  else none

def longest : Nat := 65534

def ofText? (text : String) : Option Target :=
  if longest < text.utf8ByteSize then none
  else if text.toList.head? = some '/' then ofPath? text.toList
  else ofAddress? text.toList

end Target

def isMethodMark (c : Char) : Bool := c.isAlphanum || "!#$%&'*+-.^_`|~".toList.contains c

structure Request where
  method : String
  target : Target

def Request.ofTexts? (method target : String) : Option Request :=
  if !method.isEmpty && method.toList.all isMethodMark then
    (Target.ofText? target).map fun target => ⟨method, target⟩
  else none

end Settlement.Api
