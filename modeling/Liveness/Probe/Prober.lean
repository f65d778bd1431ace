import Liveness.Probe.Batch
import Liveness.Summary

/-!
# Probing

A prober has a configuration and a transport. It makes one request and reports the answer
or a fault, or it makes a batch of requests through a worker pool. A batch reports only
what keeps it from starting; what became of its requests goes to a receiver.
-/

namespace Liveness

structure Prober (S C : Type) where
  config : Config
  transport : Transport S C

namespace Prober

variable {S C K : Type}

/-- The fault of a configuration that breaks a rule. -/
def rejection? (p : Prober S C) : Option Fault :=
  p.config.violation?.map fun v => .invalidConfig v.message

/-! ## One request -/

/-- Makes one request. An answer is logged, and is a fault unless its status is good. -/
def once (p : Prober S C) (s : Session S) : Ending Fault Response × Session S :=
  match p.rejection? with
  | some fault => (.failure fault, s)
  | none =>
    let url := p.config.url
    let (call, s) := s.send p.transport 0 url
    match s.receive p.transport 0 call with
    | (.panicked message, s) => (.abort message, s)
    | (.returned (.error fault), s) => (.failure fault, s)
    | (.returned (.ok response), s) =>
      let s := s.note (.answered url response.status)
      if response.isGood then (.value response, s)
      else (.failure (.badStatus response.status), s)

/-! ## A batch -/

/-- How a batch ends whose pool has settled. -/
def batchEnding {J W : Type} (pool : Pool J W) : Ending Fault Unit :=
  if pool.isFinished then
    if pool.refused = 0 then .value () else .failure .poolClosed
  else .stalled

/-- The requests of a batch as jobs of its pool. -/
def load (p : Prober S C) (receiver : Receiver K) :
    Pool.Workload (Batch.Job C) (Batch.Shared S K) :=
  Batch.load p.transport p.config.url receiver

/-- A pool that is about to make its batch. -/
def ready (config : Config) (pool : Pool (Batch.Job C) (Batch.Shared S K)) :
    Pool (Batch.Job C) (Batch.Shared S K) :=
  let count := config.count.toNat
  let notice := Notice.batchStarting config.url count pool.size
  { pool with
    world := { pool.world with session := pool.world.session.note notice }
    script := Batch.script C count }

/-- Opens the pool of a batch, unless something keeps the batch from starting. -/
def start (p : Prober S C) (receiver : Receiver K) (s : Session S) (memory : K)
    (res : Pool.Resources) : Ending Fault (Pool (Batch.Job C) (Batch.Shared S K)) :=
  match p.rejection? with
  | some fault => .failure fault
  | none =>
    let size := p.config.concurrency.toNat
    (Pool.create (p.load receiver) size ⟨s, memory⟩ res).map (ready p.config)

/-- Makes a batch of requests, in the order of moves that the schedule says, and hands
every outcome to the receiver. -/
def batch (p : Prober S C) (receiver : Receiver K) (σ : Schedule) (s : Session S) (memory : K)
    (res : Pool.Resources) : Ending Fault Unit × Session S × K :=
  match p.start receiver s memory res with
  | .value pool =>
    let pool := pool.settle (p.load receiver) σ
    (batchEnding pool, pool.world.session, pool.world.memory)
  | hindrance => (hindrance.map fun _ => (), s, memory)

def ignoring : Receiver Unit := fun _ _ => .taken ()

/-- Keeps outcomes, the latest first. -/
def keeping : Receiver (List Outcome) := fun o os => .taken (o :: os)

/-- Makes a batch of requests and lets their outcomes go. -/
def discard (p : Prober S C) (σ : Schedule) (s : Session S) (res : Pool.Resources) :
    Ending Fault Unit × Session S :=
  let (ending, s, _) := p.batch ignoring σ s () res
  (ending, s)

/-- Makes a batch of requests and counts their outcomes. -/
def collect (p : Prober S C) (σ : Schedule) (s : Session S) (res : Pool.Resources) :
    Ending Fault Summary × Session S :=
  let (ending, s, outcomes) := p.batch keeping σ s [] res
  (ending.bind fun () =>
    match Summary.ofList outcomes.reverse with
    | .ok summary => .value summary
    | .error _ => .abort overflowMessage, s)

end Prober

end Liveness
