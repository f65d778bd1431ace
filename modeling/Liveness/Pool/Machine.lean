import Liveness.Ending
import Liveness.Fault

/-!
# The worker pool

A fixed number of workers serve one queue, first in first out. One owner submits jobs and
at last shuts the pool down: it closes the queue and awaits every worker in turn. All
threads share a world. The pool is a machine that makes one small move at a time, each by
one thread; which thread moves next is left open, so a statement about every order of
moves is a statement about every interleaving.

A job that panics is caught by its worker, which records that and goes on. A panic can
also get past the worker (when what it carries panics as it is thrown away); then the
worker is dead. The queue takes jobs as long as it is open and one worker lives. When the
last worker dies the jobs still queued are discarded.
-/

namespace Liveness

namespace Pool

inductive Turn (J : Type) where
  /-- there is more to do -/
  | more (rest : J)
  | finished
  /-- panicked, and the worker catches it -/
  | panicked
  /-- panicked in a way that ends the worker -/
  | fatal
deriving Repr, DecidableEq

/-- What happens to the pool itself, as far as it is recorded. -/
inductive Event where
  | started (size : Nat)
  | jobPanicked (worker : Nat)
  | stopped (worker : Nat)
  /-- the owner found a worker dead -/
  | aborted
deriving Repr, DecidableEq

/-- Jobs of the kind `J` that work on a world `W`. -/
structure Workload (J W : Type) where
  /-- one turn of a job on the worker with the given number; none if the job has to wait -/
  turn : Nat → J → W → Option (Turn J × W)
  record : Event → W → W
  /-- a bound on the turns that a job still takes -/
  rank : J → Nat
  rank_more : ∀ {worker job world rest world'},
    turn worker job world = some (.more rest, world') → rank rest < rank job

inductive Worker (J : Type) where
  | idle
  | busy (ticket : Nat) (job : J)
  /-- about to record that its job panicked -/
  | caught (ticket : Nat)
  /-- ended because the queue was closed and empty -/
  | stopped
  | dead
deriving Repr, DecidableEq

namespace Worker

variable {J : Type}

def isAlive : Worker J → Bool
  | .stopped => false
  | .dead => false
  | _ => true

/-- The ticket of the job that the worker has in hand. -/
def ticket? : Worker J → Option Nat
  | .busy t _ => some t
  | .caught t => some t
  | _ => none

end Worker

inductive Command (J : Type) where
  /-- submits a job; a refusal is only counted -/
  | submit (job : J)
  /-- submits a job; after a refusal the owner shuts the pool down and does no more -/
  | insist (job : J)
  /-- closes the queue, if it is open, and awaits the workers not awaited yet -/
  | shutdown
deriving Repr, DecidableEq

end Pool

open Pool in
structure Pool (J W : Type) where
  world : W
  workers : List (Worker J)
  /-- the jobs that no worker has taken, with their tickets -/
  queue : List (Nat × J)
  /-- whether the owner can still submit -/
  isOpen : Bool
  /-- the numbers of the workers that the owner has not awaited -/
  unjoined : List Nat
  script : List (Command J)
  /-- the jobs that were accepted, with their tickets, the latest first -/
  accepted : List (Nat × J)
  refused : Nat
  /-- ticket and worker of each job that has run, the one that ended last first -/
  executed : List (Nat × Nat)
  /-- the tickets of the jobs that no worker will take -/
  discarded : List Nat
deriving Repr

namespace Pool

variable {J W : Type}

/-! ## Opening -/

/-- A pool whose workers all wait for jobs. -/
def ofSize (size : Nat) (script : List (Command J)) (world : W) : Pool J W where
  world := world
  workers := List.replicate size .idle
  queue := []
  isOpen := true
  unjoined := List.range size
  script := script
  accepted := []
  refused := 0
  executed := []
  discarded := []

/-- The number of bytes that the handle of one worker takes. -/
def handleSize : Nat := 24

/-- The largest block of memory that can be asked for. -/
def blockLimit : Nat := UInt64.size / 2 - 1

/-- What the system has for a pool that is to be opened. -/
structure Resources where
  /-- whether a block of so many bytes can be had -/
  grants : Nat → Bool
  /-- why the worker with the given number is not started, if it is not -/
  refusal? : Nat → Option OsError

/-- A system that has whatever it is asked for. -/
def Resources.ample : Resources := ⟨fun _ => true, fun _ => none⟩

/-- What keeps a pool from opening: a fault that is reported, or an abort. -/
inductive Hindrance where
  | fault (fault : Fault)
  | abort (message : String)
deriving Repr, DecidableEq

def Hindrance.ending {α : Type} : Hindrance → Ending Fault α
  | .fault f => .failure f
  | .abort message => .abort message

def noWorkers : String := "worker pool size must be at least 1"

/-- The message of an abort by a block of memory that is not to be had. -/
def allocationMessage (bytes : Nat) : String :=
  "memory allocation of " ++ Numeral.decimal bytes ++ " bytes failed"

/-- The handles of all workers are to have room in one block of memory, before the workers are
started by number. -/
def hindrance? (res : Resources) (size : Nat) : Option Hindrance :=
  if size = 0 then some (.fault (.invalidConfig noWorkers))
  else if blockLimit < size * handleSize then some (.abort capacityMessage)
  else if res.grants (size * handleSize) then
    ((List.range size).findSome? res.refusal?).map fun cause => .fault (.spawn cause)
  else some (.abort (allocationMessage (size * handleSize)))

/-- Opens a pool of a given size, if the system lets it. Workers that are started before one is
refused end by themselves, with nobody to await them; what they record is left out. -/
def create (load : Workload J W) (size : Nat) (world : W) (res : Resources := .ample) :
    Ending Fault (Pool J W) :=
  match hindrance? res size with
  | some hindrance => hindrance.ending
  | none => .value (ofSize size [] (load.record (.started size) world))

/-! ## Views -/

/-- The number of workers that the pool was started with. -/
def size (p : Pool J W) : Nat := p.workers.length

/-- How many workers still take jobs. -/
def liveCount (p : Pool J W) : Nat := p.workers.countP Worker.isAlive

def workerName (worker : Nat) : String := "probe-worker-" ++ Numeral.decimal worker

def accepts (p : Pool J W) : Bool := p.isOpen && p.workers.any Worker.isAlive

/-- The tickets of the jobs in the hands of workers. -/
def running (p : Pool J W) : List Nat := p.workers.filterMap Worker.ticket?

def queued (p : Pool J W) : List Nat := p.queue.map Prod.fst

/-- The ticket of the next job that is accepted; tickets count from zero. -/
def nextTicket (p : Pool J W) : Nat :=
  match p.accepted with
  | [] => 0
  | (ticket, _) :: _ => ticket + 1

def isFinished (p : Pool J W) : Bool := p.script.isEmpty

/-! ## Moves -/

/-- A worker ends by a panic. With the last worker the queue is lost. -/
def bury (p : Pool J W) (worker : Nat) : Pool J W :=
  let workers := p.workers.set worker .dead
  if workers.any Worker.isAlive then { p with workers }
  else { p with workers, queue := [], discarded := p.discarded ++ p.queued }

/-- The next move of a worker, if it can move. -/
def moveWorker (load : Workload J W) (worker : Nat) (p : Pool J W) : Option (Pool J W) :=
  match p.workers[worker]? with
  | none => none
  | some .stopped => none
  | some .dead => none
  | some .idle =>
    match p.queue with
    | (ticket, job) :: rest =>
      some { p with queue := rest, workers := p.workers.set worker (.busy ticket job) }
    | [] =>
      if p.isOpen then none
      else some { p with
        workers := p.workers.set worker .stopped
        world := load.record (.stopped worker) p.world }
  | some (.caught ticket) =>
    some { p with
      workers := p.workers.set worker .idle
      world := load.record (.jobPanicked worker) p.world
      executed := (ticket, worker) :: p.executed }
  | some (.busy ticket job) =>
    match load.turn worker job p.world with
    | none => none
    | some (.more rest, world) =>
      some { p with world, workers := p.workers.set worker (.busy ticket rest) }
    | some (.finished, world) =>
      some { p with
        world
        workers := p.workers.set worker .idle
        executed := (ticket, worker) :: p.executed }
    | some (.panicked, world) =>
      some { p with world, workers := p.workers.set worker (.caught ticket) }
    | some (.fatal, world) =>
      some <| bury { p with world, executed := (ticket, worker) :: p.executed } worker

def enqueue (p : Pool J W) (job : J) : Pool J W :=
  { p with
    queue := p.queue ++ [(p.nextTicket, job)]
    accepted := (p.nextTicket, job) :: p.accepted }

/-- The next move of the owner, if it can move. -/
def moveOwner (load : Workload J W) (p : Pool J W) : Option (Pool J W) :=
  match p.script with
  | [] => none
  | .submit job :: rest =>
    if p.accepts then some (enqueue { p with script := rest } job)
    else some { p with script := rest, refused := p.refused + 1 }
  | .insist job :: rest =>
    if p.accepts then some (enqueue { p with script := rest } job)
    else some { p with script := [.shutdown], refused := p.refused + 1 }
  | .shutdown :: rest =>
    if p.isOpen then some { p with isOpen := false }
    else
      match p.unjoined with
      | [] => some { p with script := rest }
      | worker :: others =>
        match p.workers[worker]? with
        | some .stopped => some { p with unjoined := others }
        | some .dead =>
          some { p with unjoined := others, world := load.record .aborted p.world }
        | _ => none

/-- The move of a thread: the workers by number, and after them the owner. -/
def move (load : Workload J W) (thread : Nat) (p : Pool J W) : Option (Pool J W) :=
  if thread < p.size then moveWorker load thread p else moveOwner load p

/-- One move by any thread. -/
inductive Step (load : Workload J W) : Pool J W → Pool J W → Prop where
  | worker {p q : Pool J W} (i : Nat) : moveWorker load i p = some q → Step load p q
  | owner {p q : Pool J W} : moveOwner load p = some q → Step load p q

/-- What a pool can become by any number of moves in any order. -/
inductive Reaches (load : Workload J W) (p : Pool J W) : Pool J W → Prop where
  | refl : Reaches load p p
  | next {q r : Pool J W} : Reaches load p q → Step load q r → Reaches load p r

/-- No thread can move. -/
def Quiet (load : Workload J W) (p : Pool J W) : Prop :=
  ∀ q, ¬ Step load p q

theorem Reaches.trans {load : Workload J W} {p q r : Pool J W}
    (h : Reaches load p q) (h' : Reaches load q r) : Reaches load p r := by
  induction h' with
  | refl => exact h
  | next _ step ih => exact .next ih step

theorem step_of_move {load : Workload J W} {i : Nat} {p q : Pool J W}
    (h : move load i p = some q) : Step load p q := by
  unfold move at h
  split at h
  · exact .worker i h
  · exact .owner h

theorem moveWorker_of_size_le {load : Workload J W} {i : Nat} {p : Pool J W}
    (h : p.size ≤ i) : moveWorker load i p = none := by
  unfold moveWorker
  rw [List.getElem?_eq_none h]

end Pool

end Liveness
