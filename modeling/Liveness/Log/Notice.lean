import Liveness.Config
import Liveness.Fault
import Liveness.Pool.Machine
import Liveness.Response
import Liveness.Text.Quoted

/-!
# What is logged

A notice is one thing worth logging, with the data that belongs to it. Every notice has a
level, an origin, a fixed message and named fields, and its record is one line made of
these.
-/

namespace Liveness

/-- How much a notice matters, from the most to the least. -/
inductive Level where
  | error
  | warn
  | info
  | debug
  | trace
deriving Repr, DecidableEq

namespace Level

/-- The position of a level, counted from the one that matters most. -/
def rank : Level → Nat
  | .error => 1
  | .warn => 2
  | .info => 3
  | .debug => 4
  | .trace => 5

def name : Level → String
  | .error => "ERROR"
  | .warn => "WARN"
  | .info => "INFO"
  | .debug => "DEBUG"
  | .trace => "TRACE"

end Level

inductive Origin where
  | pool
  | prober
  | frontEnd
  | target
deriving Repr, DecidableEq

/-- The name under which a part logs; filters choose by it. -/
def Origin.name : Origin → String
  | .pool => "probe_core::pool"
  | .prober => "probe_core::prober"
  | .frontEnd => "probe_cli"
  | .target => "mock_server"

inductive Notice where
  | poolStarted (size : Nat)
  | jobPanicked (worker : Nat)
  | workerStopped (worker : Nat)
  | workerAborted
  /-- a single request was answered -/
  | answered (url : String) (status : UInt16)
  | batchStarting (url : String) (count workers : Nat)
  /-- a request of a batch was answered with 200 -/
  | goodAnswer (seq : Nat) (response : Response)
  | badAnswer (seq : Nat) (status : UInt16)
  | noAnswer (seq : Nat) (fault : Fault)
  | singleRun (config : Config)
  | batchRun (config : Config) (strict json : Bool)
  | served (hit : Nat) (status : UInt16)
  | listening (address : String)
deriving Repr, DecidableEq

namespace Notice

def level : Notice → Level
  | .poolStarted _ => .debug
  | .jobPanicked _ => .error
  | .workerStopped _ => .debug
  | .workerAborted => .error
  | .answered .. => .info
  | .batchStarting .. => .info
  | .goodAnswer .. => .info
  | .badAnswer .. => .warn
  | .noAnswer .. => .error
  | .singleRun _ => .debug
  | .batchRun .. => .debug
  | .served .. => .debug
  | .listening _ => .info

def origin : Notice → Origin
  | .poolStarted _ => .pool
  | .jobPanicked _ => .pool
  | .workerStopped _ => .pool
  | .workerAborted => .pool
  | .answered .. => .prober
  | .batchStarting .. => .prober
  | .goodAnswer .. => .prober
  | .badAnswer .. => .prober
  | .noAnswer .. => .prober
  | .singleRun _ => .frontEnd
  | .batchRun .. => .frontEnd
  | .served .. => .target
  | .listening _ => .target

def message : Notice → String
  | .poolStarted _ => "worker pool started"
  | .jobPanicked _ => "job panicked"
  | .workerStopped _ => "worker stopped"
  | .workerAborted => "worker thread exited abnormally"
  | .answered .. => "got response"
  | .batchStarting .. => "starting concurrent probe"
  | .goodAnswer .. => "response"
  | .badAnswer .. => "bad response"
  | .noAnswer .. => "exception during probe"
  | .singleRun _ => "sequential probe"
  | .batchRun .. => "concurrent probe"
  | .served .. => "served probe"
  | .listening _ => "listening"

/-- The notice of something that happens to a pool. -/
def ofPool : Pool.Event → Notice
  | .started size => .poolStarted size
  | .jobPanicked worker => .jobPanicked worker
  | .stopped worker => .workerStopped worker
  | .aborted => .workerAborted

/-! ## Fields -/

def headerText (h : String × String) : String :=
  "(" ++ quote h.1 ++ ", " ++ quote h.2 ++ ")"

/-- Headers as a bracketed list of quoted pairs. -/
def headersText (hs : List (String × String)) : String :=
  "[" ++ ", ".intercalate (hs.map headerText) ++ "]"

/-- A configuration as a record with named members. -/
def configText (c : Config) : String :=
  "ProbeConfig \x7b host: " ++ quote c.host ++ ", port: " ++ Numeral.decimal c.port.toNat
    ++ ", count: " ++ Numeral.decimal c.count.toNat
    ++ ", concurrency: " ++ Numeral.decimal c.concurrency.toNat ++ " \x7d"

def flagText (b : Bool) : String :=
  if b then "true" else "false"

def fields : Notice → List (String × String)
  | .poolStarted size => [("size", Numeral.decimal size)]
  | .jobPanicked worker => [("worker", Numeral.decimal worker)]
  | .workerStopped worker => [("worker", Numeral.decimal worker)]
  | .workerAborted => []
  | .answered url status => [("url", url), ("status", Numeral.decimal status.toNat)]
  | .batchStarting url count workers =>
    [("url", url), ("count", Numeral.decimal count), ("workers", Numeral.decimal workers)]
  | .goodAnswer seq response =>
    [("seq", Numeral.decimal seq), ("status", Numeral.decimal response.status.toNat),
      ("headers", headersText response.headers)]
  | .badAnswer seq status =>
    [("seq", Numeral.decimal seq), ("status", Numeral.decimal status.toNat)]
  | .noAnswer seq fault => [("seq", Numeral.decimal seq), ("error", fault.message)]
  | .singleRun config => [("config", configText config)]
  | .batchRun config strict json =>
    [("config", configText config), ("strict", flagText strict), ("json", flagText json)]
  | .served hit status =>
    [("hit", Numeral.decimal hit), ("status", Numeral.decimal status.toNat)]
  | .listening address => [("addr", address)]

/-- The record of a notice: level, origin, message, and every field with its name. -/
def record (n : Notice) : String :=
  n.level.name ++ " " ++ n.origin.name ++ ": " ++ n.message
    ++ String.join (n.fields.map fun f => " " ++ f.1 ++ "=" ++ f.2)

end Notice

end Liveness
