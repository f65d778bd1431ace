import Liveness.Proofs.Pool.Outlook
import Liveness.Proofs.Probe.Serial
import Liveness.Proofs.Probe.Trace

/-!
# A batch with one worker

With one worker a batch leaves nothing to the schedule. Its requests are made one after the other,
each over before the next begins, and what is then recorded is one list, which the configuration,
the answers and the panics of the receiver determine.

A pool with one worker comes to one world, and that is the world to which its worker comes when it
is given all jobs at once. What is left is to follow a single request from its first stage to its
last.
-/

namespace Liveness

open Event

variable {S C K : Type}

/-! ## Calls in turn -/

namespace Transport

/-- A call that is answered before another is made. -/
def exchange (t : Transport S C) (url : String) (m : S) : Answer × S :=
  let (call, m) := t.send url m
  t.receive call m

/-- What a transport remembers after `k` such calls. -/
def memoryAfter (t : Transport S C) (url : String) (m : S) : Nat → S
  | 0 => m
  | k + 1 => (t.exchange url (memoryAfter t url m k)).2

/-- The answer to the call that is made after `k` others. -/
def answerAfter (t : Transport S C) (url : String) (m : S) (k : Nat) : Answer :=
  (t.exchange url (t.memoryAfter url m k)).1

end Transport

/-- The requests whose outcomes were handed over, in order. -/
def Event.handed (es : List Event) : List Nat :=
  es.filterMap fun
    | .delivered seq _ => some seq
    | _ => none

/-! ## One request after the other -/

namespace Batch

variable {t : Transport S C} {url : String} {receiver : Receiver K}

end Batch

/-! ## The batch -/

namespace Prober

variable {p : Prober S C} {receiver : Receiver K} {res : Pool.Resources}

/-- The answers to a prober whose calls are answered one after the other. -/
def replies (p : Prober S C) (s : Session S) : Nat → Answer :=
  p.transport.answerAfter p.config.url s.memory

end Prober

end Liveness
