import Liveness.Probe.Prober

/-!
# Courses of probing

A prober can be used again and again; what the transport remembers carries over from one
step to the next. A course is a list of steps, and its report says what each step found
and how many requests had been made by then.
-/

namespace Liveness

inductive ProbeStep where
  | once
  | collect
  | discard
  /-- a batch whose outcomes go to a receiver that keeps them, and panics on some -/
  | hand (panics : Outcome → Bool)

inductive Finding where
  | answer (ending : Ending Fault Response)
  | counts (ending : Ending Fault Summary)
  | nothing (ending : Ending Fault Unit)
  /-- the outcomes that were kept, in order -/
  | kept (ending : Ending Fault Unit) (outcomes : List Outcome)
deriving Repr

namespace ProbeStep

variable {S C : Type}

/-- Keeps outcomes, the latest first, and panics on some. -/
def keepingUnless (panics : Outcome → Bool) : Receiver (List Outcome) := fun o os =>
  if panics o then .panicked os else .taken (o :: os)

def run (p : Prober S C) (σ : Schedule) (s : Session S) (step : ProbeStep)
    (res : Pool.Resources := .ample) : Finding × Session S :=
  match step with
  | .once =>
    let (ending, s) := p.once s
    (.answer ending, s)
  | .collect =>
    let (ending, s) := p.collect σ s res
    (.counts ending, s)
  | .discard =>
    let (ending, s) := p.discard σ s res
    (.nothing ending, s)
  | .hand panics =>
    let (ending, s, outcomes) := p.batch (keepingUnless panics) σ s [] res
    (.kept ending outcomes.reverse, s)

/-- Takes the steps of a course, each under a schedule of its own: what each step found
with the number of requests made so far, and the session at the end. -/
def runAll (p : Prober S C) (res : Pool.Resources) : List (ProbeStep × Schedule) → Session S →
    List (Finding × Nat) × Session S
  | [], s => ([], s)
  | (step, σ) :: rest, s =>
    let (finding, s) := step.run p σ s res
    let (findings, last) := runAll p res rest s
    ((finding, s.requests) :: findings, last)

end ProbeStep

end Liveness
