import Liveness.Json.Quoted

/-!
# The health of a target

What a target says about itself in the body of an answer: a label and the number of the
answer. It is written as a JSON object without spaces, on one line.
-/

namespace Liveness

structure Health where
  status : String
  hit : UInt64
deriving Repr, DecidableEq

namespace Health

def statusKey : String := "status"

def hitKey : String := "hit"

def jsonChars (h : Health) : List Char :=
  ['\x7b'] ++ Json.stringChars statusKey.toList ++ [':'] ++ Json.stringChars h.status.toList
    ++ [','] ++ Json.stringChars hitKey.toList ++ [':'] ++ Numeral.decimalChars h.hit.toNat
    ++ ['\x7d']

def json (h : Health) : String := String.ofList h.jsonChars

end Health

end Liveness
