import Liveness.Fault
import Liveness.Response

/-!
# The outcome of one request

What became of a request: a good answer, an answer with another status, or no answer. A
result of the transport always has exactly one outcome.
-/

namespace Liveness

inductive Outcome where
  | good (response : Response)
  | bad (response : Response)
  | failed (fault : Fault)
deriving Repr, DecidableEq

namespace Outcome

def ofResult : Except Fault Response → Outcome
  | .ok response => if response.isGood then .good response else .bad response
  | .error fault => .failed fault

def isGood : Outcome → Bool
  | .good _ => true
  | _ => false

/-- The status of the answer, if there was one. -/
def status? : Outcome → Option UInt16
  | .good response => some response.status
  | .bad response => some response.status
  | .failed _ => none

/-- The three classes that a summary counts. -/
inductive Class where
  | good
  | bad
  | failed
deriving Repr, DecidableEq

def kind : Outcome → Class
  | .good _ => .good
  | .bad _ => .bad
  | .failed _ => .failed

end Outcome

end Liveness
