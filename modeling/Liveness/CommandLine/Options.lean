import Liveness.Config

/-!
# The options of the two commands

One command makes a single request, the other a batch. Both take the endpoint; the batch
also takes its size, its workers, and two flags. An option with a value may instead be set
by an environment variable.
-/

namespace Liveness

namespace CommandLine

inductive Command where
  | single
  | batch
deriving Repr, DecidableEq

namespace Command

def name : Command → String
  | .single => "probe"
  | .batch => "probe-concurrent"

def about : Command → String
  | .single => "Send one GET and fail unless it answers 200"
  | .batch => "Fire a batch of GETs through a worker pool"

end Command

inductive Key where
  | host
  | port
  | count
  | concurrency
  | strict
  | json
  | help
  | version
deriving Repr, DecidableEq

namespace Key

def name : Key → String
  | .host => "host"
  | .port => "port"
  | .count => "count"
  | .concurrency => "concurrency"
  | .strict => "strict"
  | .json => "json"
  | .help => "help"
  | .version => "version"

/-- The letter after one dash. -/
def letter? : Key → Option Char
  | .count => some 'n'
  | .concurrency => some 'c'
  | .help => some 'h'
  | .version => some 'V'
  | _ => none

/-- What the value is called; a flag has none. -/
def valueName? : Key → Option String
  | .host => some "HOST"
  | .port => some "PORT"
  | .count => some "COUNT"
  | .concurrency => some "CONCURRENCY"
  | _ => none

/-- The variable that stands in for the option. -/
def setting? : Key → Option String
  | .host => some "PROBE_HOST"
  | .port => some "PROBE_PORT"
  | .count => some "PROBE_COUNT"
  | .concurrency => some "PROBE_CONCURRENCY"
  | _ => none

def about : Key → String
  | .host => "Target hostname"
  | .port => "Target port"
  | .count => "Number of requests to send"
  | .concurrency => "Worker threads; defaults to the number of cores"
  | .strict => "Exit non-zero if any probe fails"
  | .json => "Print the collected summary as one JSON line"
  | .help => "Print help"
  | .version => "Print version"

/-- The option as it is shown to the user. -/
def usage (k : Key) : String :=
  "--" ++ k.name ++ k.valueName?.elim "" fun v => " <" ++ v ++ ">"

end Key

namespace Command

/-- The options of a command, in the order in which they are listed. -/
def keys : Command → List Key
  | .single => [.host, .port, .help, .version]
  | .batch => [.host, .port, .count, .concurrency, .strict, .json, .help, .version]

def keyNamed? (c : Command) (name : String) : Option Key :=
  c.keys.find? fun k => k.name == name

def keyLettered? (c : Command) (letter : Char) : Option Key :=
  c.keys.find? fun k => k.letter? == some letter

def valuedKeys (c : Command) : List Key :=
  c.keys.filter fun k => k.valueName?.isSome

/-- The value that an option has when nothing sets it. -/
def defaultText? (c : Command) : Key → Option String
  | .host => some Config.defaultHost
  | .port =>
    some <| Numeral.decimal <| UInt16.toNat <|
      match c with
      | .single => Config.defaultPort
      | .batch => Config.defaultBatchPort
  | .count => some (Numeral.decimal Config.defaultBatchCount.toNat)
  | _ => none

end Command

end CommandLine

end Liveness
