import Liveness.OsError

/-!
# Faults of a probe

Everything that can go wrong between a probe's configuration and its answer.
-/

namespace Liveness

inductive Fault where
  /-- no answer came back from `url` -/
  | transport (url message : String)
  /-- the answer is not 200 -/
  | badStatus (status : UInt16)
  /-- the probe must not start with this configuration -/
  | invalidConfig (reason : String)
  | spawn (cause : OsError)
  /-- no worker takes jobs any more -/
  | poolClosed
deriving Repr, DecidableEq

namespace Fault

def message : Fault → String
  | .transport url text => "transport error for " ++ url ++ ": " ++ text
  | .badStatus status => "request failed with response " ++ Numeral.decimal status.toNat
  | .invalidConfig reason => "invalid config: " ++ reason
  | .spawn cause => "failed to spawn worker thread: " ++ cause.message
  | .poolClosed => "worker pool is closed"

/-- What stands behind the fault, where that is more than the fault itself. -/
def cause? : Fault → Option OsError
  | .spawn cause => some cause
  | _ => none

end Fault

end Liveness
