import Liveness.Health.Basic
import Liveness.Http.Request

/-!
# A target to probe

A target answers every request that reaches it, and counts these hits. How it answers is
its behaviour: always well, always with one status, or badly at every n-th hit. A hit is
counted at once; the answer depends on the number of the hit alone, so it does not matter
when it is sent.
-/

namespace Liveness

inductive Behavior where
  | healthy
  /-- always with one status -/
  | fixed (status : StatusCode)
  /-- badly at every n-th hit; never, if n is zero -/
  | failEvery (n : Nat)

structure Target where
  behavior : Behavior
  hits : Nat

namespace Target

def ofBehavior (b : Behavior) : Target := ⟨b, 0⟩

/-- The status of the answer to a hit; hits are counted from one. -/
def statusFor (b : Behavior) (hit : Nat) : StatusCode :=
  match b with
  | .healthy => .ok
  | .fixed status => status
  | .failEvery n => if 0 < n ∧ hit % n = 0 then .serverError else .ok

/-- Counts a hit and gives its number. -/
def count (t : Target) : Nat × Target :=
  (t.hits + 1, { t with hits := t.hits + 1 })

/-- What the target says of itself with a status. -/
def label (s : StatusCode) : String :=
  if s.isSuccess then "ok" else "error"

/-- The health that is sent in answer to a hit. -/
def health (b : Behavior) (hit : Nat) : Health :=
  ⟨label (statusFor b hit), UInt64.ofNat hit⟩

def reply (b : Behavior) (hit : Nat) : Reply :=
  let body := (health b hit).json
  ⟨statusFor b hit,
    [("content-type", "application/json"),
      ("content-length", Numeral.decimal body.utf8ByteSize)],
    body⟩

end Target

end Liveness
