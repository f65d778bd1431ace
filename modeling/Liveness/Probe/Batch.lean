import Liveness.Pool.Schedule
import Liveness.Probe.Session

/-!
# The jobs of a batch

Each request of a batch is one job of a worker pool. Its stages are moves of their own, so
the jobs of different workers interleave at every point: the request is sent, the answer
comes, its outcome is logged, and the outcome is handed to the receiver of the batch. A
panic of the transport or of the receiver ends the job; the worker catches it.
-/

namespace Liveness

/-- What becomes of an outcome that is handed to a receiver with memory `K`. -/
inductive Reception (K : Type) where
  | taken (memory : K)
  /-- the receiver panicked on it -/
  | panicked (memory : K)
deriving Repr, DecidableEq

/-- Whoever asked for the outcomes of a batch. -/
abbrev Receiver (K : Type) := Outcome → K → Reception K

namespace Batch

inductive Stage (C : Type) where
  | ready
  /-- sent and not yet answered -/
  | sent (call : C)
  /-- answered, and the outcome is still to be logged -/
  | judged (outcome : Outcome)
  /-- logged, and the outcome is still to be handed over -/
  | logged (outcome : Outcome)
deriving Repr, DecidableEq

structure Job (C : Type) where
  seq : Nat
  stage : Stage C
deriving Repr, DecidableEq

/-- What the workers share: the session and the receiver's memory. -/
structure Shared (S K : Type) where
  session : Session S
  memory : K

def outcomeNotice (seq : Nat) : Outcome → Notice
  | .good response => .goodAnswer seq response
  | .bad response => .badAnswer seq response.status
  | .failed fault => .noAnswer seq fault

variable {S C K : Type}

def deliver (receiver : Receiver K) (seq : Nat) (outcome : Outcome) (w : Shared S K) :
    Pool.Turn (Job C) × Shared S K :=
  let session := w.session.add (.delivered seq outcome)
  match receiver outcome w.memory with
  | .taken memory => (.finished, ⟨session, memory⟩)
  | .panicked memory => (.panicked, ⟨session, memory⟩)

/-- One stage of a request. -/
def turn (t : Transport S C) (url : String) (receiver : Receiver K) (job : Job C)
    (w : Shared S K) : Pool.Turn (Job C) × Shared S K :=
  match job.stage with
  | .ready =>
    let (call, session) := w.session.send t job.seq url
    (.more { job with stage := .sent call }, { w with session })
  | .sent call =>
    match w.session.receive t job.seq call with
    | (.returned result, session) =>
      (.more { job with stage := .judged (.ofResult result) }, { w with session })
    | (.panicked _, session) => (.panicked, { w with session })
  | .judged outcome =>
    (.more { job with stage := .logged outcome },
      { w with session := w.session.note (outcomeNotice job.seq outcome) })
  | .logged outcome => deliver receiver job.seq outcome w

/-- The stages that a request has still to go through. -/
def Stage.rank : Stage C → Nat
  | .ready => 3
  | .sent _ => 2
  | .judged _ => 1
  | .logged _ => 0

/-- The requests of a batch as jobs of a pool; none ever waits for another. -/
def load (t : Transport S C) (url : String) (receiver : Receiver K) :
    Pool.Workload (Job C) (Shared S K) where
  turn _ job w := some (turn t url receiver job w)
  record event w := { w with session := w.session.note (.ofPool event) }
  rank job := job.stage.rank
  rank_more {_ job w rest w'} h := by
    obtain ⟨seq, stage⟩ := job
    cases stage <;> simp [turn] at h
    case ready => rw [← h.1]; simp [Stage.rank]
    case sent call =>
      split at h <;> simp at h
      rw [← h.1]; simp [Stage.rank]
    case judged outcome => rw [← h.1]; simp [Stage.rank]
    case logged outcome =>
      unfold deliver at h
      split at h <;> simp at h

/-- The requests with numbers below `count`. -/
def jobs (C : Type) (count : Nat) : List (Job C) :=
  (List.range count).map fun seq => ⟨seq, .ready⟩

/-- What the owner of the pool does: submits every request, and at the end shuts the pool
down, which it does again when it lets go of the pool. -/
def script (C : Type) (count : Nat) : List (Pool.Command (Job C)) :=
  (jobs C count).map .insist ++ [.shutdown, .shutdown]

end Batch

end Liveness
