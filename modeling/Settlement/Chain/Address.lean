import Settlement.Chain.Host

/-!
The web address of a node. A call can be made where the address names a host, under
one of the two schemes of the web.
-/

namespace Settlement.Chain.Address

open Text

def isBlank (c : Char) : Bool := c.toNat ≤ 0x20

def cleaned (url : String) : List Char :=
  ((url.toList.dropWhile isBlank).reverse.dropWhile isBlank).reverse.filter fun c =>
    !(c = '\t' || c = '\n' || c = '\r')

def isSlash (c : Char) : Bool := c = '/' || c = '\\'

def endsAuthority (c : Char) : Bool := isSlash c || c = '?' || c = '#'

def authority? (text : List Char) : Option (List Char) :=
  let scheme := String.ofList ((text.takeWhile (· ≠ ':')).map Char.toLower)
  match text.dropWhile (· ≠ ':') with
  | [] => none
  | _ :: rest =>
      if scheme = "http" || scheme = "https" then
        some ((rest.dropWhile isSlash).takeWhile fun c => !endsAuthority c)
      else none

def isPort (text : List Char) : Bool :=
  text.isEmpty || (Decimal.digits? text).any (· < 0x1_0000)

def cut : (inBrackets : Bool) → List Char → List Char × List Char
  | _, [] => ([], [])
  | inBrackets, c :: rest =>
      if c = ':' && !inBrackets then ([], c :: rest)
      else
        let (host, port) := cut (if c = '[' then true else if c = ']' then false else inBrackets) rest
        (c :: host, port)

def isPlace (text : List Char) : Bool :=
  let (host, port) := cut false text
  Host.isHost host && isPort (port.drop 1)

def isCallable (url : String) : Bool :=
  (authority? (cleaned url)).any fun authority =>
    isPlace (authority.reverse.takeWhile (· ≠ '@')).reverse

end Settlement.Chain.Address
