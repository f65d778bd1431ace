import Liveness.Outcome

/-!
# Counting outcomes

A summary counts outcomes, in all and by class. The counters are words of 64 bits, and a
counter that is full cannot be raised: the computation that tries is cut short, and leaves
the counters as they were at that point.
-/

namespace Liveness

structure Summary where
  total : UInt64
  succeeded : UInt64
  badStatus : UInt64
  failed : UInt64
deriving Repr, DecidableEq

/-- The next value of a counter, unless it is full. -/
def raise? (n : UInt64) : Option UInt64 :=
  if n = UInt64.ofNat (UInt64.size - 1) then none else some (n + 1)

/-- The sum of two counters, unless it needs more than 64 bits. -/
def sum? (a b : UInt64) : Option UInt64 :=
  if a.toNat + b.toNat < UInt64.size then some (a + b) else none

namespace Summary

def empty : Summary := ⟨0, 0, 0, 0⟩

def raiseClass? (s : Summary) : Outcome.Class → Option Summary
  | .good => (raise? s.succeeded).map fun n => { s with succeeded := n }
  | .bad => (raise? s.badStatus).map fun n => { s with badStatus := n }
  | .failed => (raise? s.failed).map fun n => { s with failed := n }

/-- Counts an outcome, first in all and then in its class. When a counter is full the
counters that were reached before it stay raised, and the error holds them. -/
def record (s : Summary) (o : Outcome) : Except Summary Summary :=
  match raise? s.total with
  | none => .error s
  | some n =>
    let counted := { s with total := n }
    match counted.raiseClass? o.kind with
    | none => .error counted
    | some s' => .ok s'

def recordAll : Summary → List Outcome → Except Summary Summary
  | s, [] => .ok s
  | s, o :: rest =>
    match s.record o with
    | .ok s' => recordAll s' rest
    | .error s' => .error s'

def ofList (os : List Outcome) : Except Summary Summary :=
  empty.recordAll os

/-- How many outcomes were not good, unless that overflows. -/
def failures? (s : Summary) : Option UInt64 :=
  sum? s.badStatus s.failed

/-- Whether there was an outcome and none but good ones. An empty summary is settled
without adding up the failures. -/
def allSucceeded? (s : Summary) : Option Bool :=
  if s.total = 0 then some false else s.failures?.map (· == 0)

/-- A summary as one line of JSON. -/
def json (s : Summary) : String :=
  let member (name : String) (n : UInt64) := quotedName name ++ ":" ++ Numeral.decimal n.toNat
  "\x7b" ++ member "total" s.total ++ "," ++ member "succeeded" s.succeeded ++ ","
    ++ member "bad_status" s.badStatus ++ "," ++ member "failed" s.failed ++ "\x7d"
where
  quotedName (name : String) : String := "\"" ++ name ++ "\""

end Summary

end Liveness
