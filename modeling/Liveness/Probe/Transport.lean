import Liveness.Outcome

/-!
# Transports

A transport carries requests to an endpoint. A call has two ends: it is sent, which may
change what the transport remembers, and some time later it is answered. Between the two,
other calls may be sent and answered.
-/

namespace Liveness

/-- How a call ends: with a result, or with a panic inside the transport. -/
inductive Answer where
  | returned (result : Except Fault Response)
  | panicked (message : String)
deriving Repr

/-- A transport with memory `S`; `C` is what a call under way is known by. -/
structure Transport (S C : Type) where
  send : String → S → C × S
  receive : C → S → Answer × S

namespace Transport

/-- The transport that answers its calls by number, counted from zero in the order in
which they are sent. It remembers how many calls were sent. -/
def numbered (answer : Nat → String → Answer) : Transport Nat (Nat × String) where
  send url calls := ((calls, url), calls + 1)
  receive call calls := (answer call.1 call.2, calls)

def pure (answer : String → Answer) : Transport Unit String where
  send url _ := (url, ())
  receive url _ := (answer url, ())

end Transport

/-! ## Scripts -/

namespace Script

inductive Item where
  /-- nobody listens at the url -/
  | refused
  | status (code : UInt16)
  /-- no answer from the url, with a message -/
  | unreachable (message : String)
  | answer (a : Answer)
deriving Repr

def Item.answerFor (url : String) : Item → Answer
  | .refused => .returned (.error (.transport url "connection refused"))
  | .status code => .returned (.ok (Response.ofStatus code))
  | .unreachable message => .returned (.error (.transport url message))
  | .answer a => a

/-- The answer to the call with number `n`: the items in turn, over and over. -/
def answer (items : List Item) (n : Nat) (url : String) : Answer :=
  match items[n % items.length]? with
  | none => .returned (.error (.transport url "script is empty"))
  | some item => item.answerFor url

def transport (items : List Item) : Transport Nat (Nat × String) :=
  .numbered (answer items)

end Script

end Liveness
