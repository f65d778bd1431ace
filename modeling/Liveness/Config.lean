import Liveness.Text.Blank
import Liveness.Text.Numeral

/-!
# The configuration of a probe

Which endpoint is probed, how often, and by how many workers. The numbers are words of the
width that the command line takes; the host is any text.
-/

namespace Liveness

structure Config where
  host : String
  port : UInt16
  /-- how many requests a batch makes -/
  count : UInt64
  /-- how many workers share a batch -/
  concurrency : UInt64
deriving Repr, DecidableEq

namespace Config

def defaultHost : String := "0.0.0.0"

def defaultPort : UInt16 := 8000

def defaultBatchPort : UInt16 := 8005

def defaultBatchCount : UInt64 := 100

def single : Config where
  host := defaultHost
  port := defaultPort
  count := 1
  concurrency := 1

/-- A batch of requests to the default target, with a worker for each of `cores`. -/
def batch (cores : UInt64) : Config where
  host := defaultHost
  port := defaultBatchPort
  count := defaultBatchCount
  concurrency := cores

instance : Inhabited Config := ⟨single⟩

/-- Host and port as they stand in an address. -/
def authority (c : Config) : String :=
  c.host ++ ":" ++ Numeral.decimal c.port.toNat

/-- The address that is probed: the root of the endpoint. -/
def url (c : Config) : String :=
  "http://" ++ c.authority ++ "/"

inductive Violation where
  | blankHost
  | zeroPort
  | zeroCount
  | zeroConcurrency
deriving Repr, DecidableEq

def Violation.message : Violation → String
  | .blankHost => "host must not be empty"
  | .zeroPort => "port must not be 0"
  | .zeroCount => "count must be at least 1"
  | .zeroConcurrency => "concurrency must be at least 1"

/-- The first rule that the configuration breaks: a host with something in it, and no
number zero. -/
def violation? (c : Config) : Option Violation :=
  if (trim c.host.toList).isEmpty then some .blankHost
  else if c.port = 0 then some .zeroPort
  else if c.count = 0 then some .zeroCount
  else if c.concurrency = 0 then some .zeroConcurrency
  else none

end Config

end Liveness
