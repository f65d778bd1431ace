import Liveness.Failure
import Liveness.Probe.Prober
import Liveness.Sink

/-!
# The two front ends

One makes a single request and fails with it. The other makes a batch and fails only if it
cannot start, unless it is asked to be strict: then it fails when any outcome of the batch
was not good. Both write what they found to a sink and fail when the sink refuses.
-/

namespace Liveness

namespace FrontEnd

/-- What a front end leaves behind: how it ended, the session, and the output. -/
structure Run (S : Type) where
  ending : Ending Failure Unit
  session : Session S
  sink : Sink

variable {S C : Type}

/-- Writes a line and goes on, or fails with the sink. -/
def printLine (line : String) (session : Session S) (sink : Sink)
    (next : Sink → Run S) : Run S :=
  match sink.write (line ++ "\n") with
  | (true, sink) => next sink
  | (false, sink) => ⟨.failure ⟨Sink.fullMessage, []⟩, session, sink⟩

/-- The status that a result shows: that of an answer, or the bad one that a fault tells. -/
def shownStatus? : Ending Fault Response → Option UInt16
  | .value response => some response.status
  | .failure (.badStatus status) => some status
  | _ => none

def statusLine (status : UInt16) : String :=
  "Got response: " ++ Numeral.decimal status.toNat

def concludeSingle (config : Config) (result : Ending Fault Response) (session : Session S)
    (sink : Sink) : Run S :=
  match result with
  | .value _ =>
    printLine ("Got a good response from " ++ config.authority) session sink fun sink =>
      ⟨.value (), session, sink⟩
  | .failure fault =>
    ⟨.failure ((Failure.ofFault fault).within ("probing " ++ config.url)), session, sink⟩
  | .abort message => ⟨.abort message, session, sink⟩
  | .stalled => ⟨.stalled, session, sink⟩

def single (p : Prober S C) (session : Session S) (sink : Sink) : Run S :=
  let (result, session) := p.once (session.note (.singleRun p.config))
  match shownStatus? result with
  | none => concludeSingle p.config result session sink
  | some status =>
    printLine (statusLine status) session sink (concludeSingle p.config result session)

/-- A fault that kept a batch from starting. -/
def startFailure (config : Config) (fault : Fault) : Failure :=
  (Failure.ofFault fault).within ("starting probes against " ++ config.url)

def finishedLine (count : Nat) (config : Config) : String :=
  "Finished " ++ Numeral.decimal count ++ " probes against " ++ config.authority

def countedLine (summary : Summary) (config : Config) : String :=
  finishedLine summary.total.toNat config ++ ": "
    ++ Numeral.decimal summary.succeeded.toNat ++ " ok, "
    ++ Numeral.decimal summary.badStatus.toNat ++ " bad response, "
    ++ Numeral.decimal summary.failed.toNat ++ " failed"

def strictFailure (failures : UInt64) (summary : Summary) (config : Config) : Failure :=
  ⟨Numeral.decimal failures.toNat ++ " of " ++ Numeral.decimal summary.total.toNat
    ++ " probes against " ++ config.authority ++ " failed", []⟩

/-- Whether a counted batch passes. -/
def verdict (config : Config) (strict : Bool) (summary : Summary) : Ending Failure Unit :=
  if strict then
    match summary.allSucceeded?, summary.failures? with
    | some true, _ => .value ()
    | some false, some failures => .failure (strictFailure failures summary config)
    | _, _ => .abort overflowMessage
  else .value ()

/-- Makes a batch of requests. Their outcomes are counted only if `strict` or `json` asks
for it; `json` shows the counts as one line of JSON. -/
def batch (p : Prober S C) (strict json : Bool) (σ : Schedule) (session : Session S)
    (sink : Sink) (res : Pool.Resources := .ample) : Run S :=
  let session := session.note (.batchRun p.config strict json)
  if strict || json then
    match p.collect σ session res with
    | (.value summary, session) =>
      let line := if json then summary.json else countedLine summary p.config
      printLine line session sink fun sink => ⟨verdict p.config strict summary, session, sink⟩
    | (.failure fault, session) => ⟨.failure (startFailure p.config fault), session, sink⟩
    | (.abort message, session) => ⟨.abort message, session, sink⟩
    | (.stalled, session) => ⟨.stalled, session, sink⟩
  else
    match p.discard σ session res with
    | (.value (), session) =>
      printLine (finishedLine p.config.count.toNat p.config) session sink fun sink =>
        ⟨.value (), session, sink⟩
    | (.failure fault, session) => ⟨.failure (startFailure p.config fault), session, sink⟩
    | (.abort message, session) => ⟨.abort message, session, sink⟩
    | (.stalled, session) => ⟨.stalled, session, sink⟩

end FrontEnd

end Liveness
