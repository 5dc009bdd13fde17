/-!
A page of a listing: how many rows to skip and how many to show. What a client
asks for is brought into the allowed range.
-/

namespace Settlement.Api

structure Page where
  offset : Int
  limit : Int
  deriving DecidableEq

namespace Page

def defaultLimit : Int := 100

def maxLimit : Int := 1000

def clamped (offset limit : Option Int) : Page where
  offset := max 0 (offset.getD 0)
  limit := min maxLimit (max 1 (limit.getD defaultLimit))

end Page

end Settlement.Api
