import Liveness.CommandLine.Options

/-!
# Reading a command line

The arguments are read from left to right. An option whose value is an argument of its own
is settled only when the next option comes or the arguments end, so an argument that fits
nowhere is reported before a bad value in front of it. After a lone double dash nothing is
an option any more, and since there are no other arguments, nothing is expected either.

What the command line does not set is taken from the environment, and then from the
defaults.
-/

namespace Liveness

namespace CommandLine

structure Given where
  host : Option String := none
  port : Option UInt16 := none
  count : Option UInt64 := none
  concurrency : Option UInt64 := none
  strict : Bool := false
  json : Bool := false
deriving Repr, DecidableEq

/-- Why the arguments are not run. -/
inductive Fault where
  | missingValue (key : Key)
  | invalidValue (key : Key) (value reason : String)
  | unknown (argument : String)
  | repeated (key : Key)
  /-- a value for a flag -/
  | unwantedValue (key : Key) (value : String)
  | help
  | version
deriving Repr, DecidableEq

/-! ## Values -/

/-- The greatest number of a signed word, in which a port is read. -/
def signedLimit : Nat := UInt64.size / 2 - 1

def portLimit : Nat := UInt16.size - 1

def outOfRange (n : Int) : String :=
  Numeral.signedDecimal n ++ " is not in 0..=" ++ Numeral.decimal portLimit

/-- A port: a number that fits a signed word, and then its range. -/
def readPort (text : String) : Except String UInt16 :=
  match Numeral.readInt signedLimit text.toList with
  | .error fault => .error fault.message
  | .ok n => if 0 ≤ n ∧ n ≤ portLimit then .ok (UInt16.ofNat n.toNat) else .error (outOfRange n)

def wordLimit : Nat := UInt64.size - 1

def readWord (text : String) : Except String UInt64 :=
  match Numeral.readNat wordLimit text.toList with
  | .error fault => .error fault.message
  | .ok n => .ok (UInt64.ofNat n)

namespace Given

def has (g : Given) : Key → Bool
  | .host => g.host.isSome
  | .port => g.port.isSome
  | .count => g.count.isSome
  | .concurrency => g.concurrency.isSome
  | .strict => g.strict
  | .json => g.json
  | .help => false
  | .version => false

/-- Sets an option to the value of a text, or says what is wrong with the text. -/
def set (g : Given) (key : Key) (text : String) : Except String Given :=
  match key with
  | .host => .ok { g with host := some text }
  | .port => (readPort text).map fun n => { g with port := some n }
  | .count => (readWord text).map fun n => { g with count := some n }
  | .concurrency => (readWord text).map fun n => { g with concurrency := some n }
  | _ => .ok g

/-- Sets an option, once. -/
def accept (g : Given) (key : Key) (text : String) : Except Fault Given :=
  if g.has key then .error (.repeated key)
  else
    match g.set key text with
    | .ok g => .ok g
    | .error reason => .error (.invalidValue key text reason)

/-- Raises a flag, once; help and version end the reading. -/
def raise (g : Given) (key : Key) : Except Fault Given :=
  if g.has key then .error (.repeated key)
  else
    match key with
    | .help => .error .help
    | .version => .error .version
    | .strict => .ok { g with strict := true }
    | .json => .ok { g with json := true }
    | _ => .ok g

end Given

/-! ## Arguments -/

/-- An option that was named and is not settled, with the argument after it. -/
structure Pending where
  key : Key
  value : Option String
deriving Repr, DecidableEq

structure State where
  given : Given := {}
  pending : Option Pending := none
  /-- whether a lone double dash was read -/
  closed : Bool := false
deriving Repr, DecidableEq

namespace State

/-- Settles the option that was named last. -/
def settle (s : State) : Except Fault Given :=
  match s.pending with
  | none => .ok s.given
  | some ⟨key, none⟩ => .error (.missingValue key)
  | some ⟨key, some text⟩ => s.given.accept key text

/-- Reads an option together with its value. -/
def readAttached (s : State) (key : Key) (text : String) : Except Fault State := do
  let given ← s.settle
  let given ← given.accept key text
  .ok { s with given, pending := none }

/-- Reads an option whose value has to follow, or a flag. -/
def readBare (s : State) (key : Key) : Except Fault State := do
  let given ← s.settle
  if key.valueName?.isSome then .ok { s with given, pending := some ⟨key, none⟩ }
  else
    let given ← given.raise key
    .ok { s with given, pending := none }

/-- Reads what follows two dashes. -/
def readLong (c : Command) (s : State) (body : List Char) : Except Fault State :=
  let name := String.ofList (body.takeWhile (· ≠ '='))
  let value? :=
    match body.dropWhile (· ≠ '=') with
    | [] => none
    | _ :: text => some (String.ofList text)
  match c.keyNamed? name, value? with
  | none, _ => .error (.unknown ("--" ++ name))
  | some key, none => s.readBare key
  | some key, some text =>
    if key.valueName?.isSome then s.readAttached key text
    else .error (.unwantedValue key text)

/-- Reads a letter after one dash, and what follows it. -/
def readShort (c : Command) (s : State) (letter : Char) (rest : List Char) :
    Except Fault State :=
  match c.keyLettered? letter with
  | none => .error (.unknown (String.ofList ['-', letter]))
  | some key =>
    if key.valueName?.isNone then s.readBare key
    else
      match rest with
      | [] => s.readBare key
      | '=' :: text => s.readAttached key (String.ofList text)
      | text => s.readAttached key (String.ofList text)

/-- Reads an argument that is no option: the value that is waited for, or nothing that is
expected. -/
def readPlain (s : State) (argument : String) : Except Fault State :=
  match s.pending with
  | some ⟨key, none⟩ => .ok { s with pending := some ⟨key, some argument⟩ }
  | _ => .error (.unknown argument)

def read (c : Command) (s : State) (argument : String) : Except Fault State :=
  if s.closed then .error (.unknown argument)
  else
    match argument.toList with
    | ['-', '-'] => .ok { s with closed := true }
    | '-' :: '-' :: body => s.readLong c body
    | '-' :: letter :: rest => s.readShort c letter rest
    | _ => s.readPlain argument

def readAll (c : Command) : State → List String → Except Fault State
  | s, [] => .ok s
  | s, argument :: rest =>
    match s.read c argument with
    | .error fault => .error fault
    | .ok s => readAll c s rest

end State

/-! ## Environment and defaults -/

/-- The variables that are set. -/
abbrev Environment := List (String × String)

def valueOf? (env : Environment) (name : String) : Option String := List.lookup name env

/-- Sets an option from its variable, unless it is set already. -/
def Given.inherit (env : Environment) (g : Given) (key : Key) : Except Fault Given :=
  if g.has key then .ok g
  else
    match key.setting?.bind (valueOf? env) with
    | none => .ok g
    | some text => g.accept key text

def Given.inheritAll (env : Environment) : Given → List Key → Except Fault Given
  | g, [] => .ok g
  | g, key :: rest =>
    match g.inherit env key with
    | .error fault => .error fault
    | .ok g => inheritAll env g rest

/-- The values that a command line sets together with the environment. -/
def parse (c : Command) (arguments : List String) (env : Environment) : Except Fault Given := do
  let state ← State.readAll c {} arguments
  let given ← state.settle
  given.inheritAll env c.valuedKeys

namespace Given

def singleConfig (g : Given) : Config :=
  { Config.single with
    host := g.host.getD Config.defaultHost
    port := g.port.getD Config.defaultPort }

/-- The configuration of a batch; its workers are as many as the cores unless they are
set. -/
def batchConfig (cores : UInt64) (g : Given) : Config where
  host := g.host.getD Config.defaultHost
  port := g.port.getD Config.defaultBatchPort
  count := g.count.getD Config.defaultBatchCount
  concurrency := g.concurrency.getD cores

def config (cores : UInt64) (g : Given) : Command → Config
  | .single => g.singleConfig
  | .batch => g.batchConfig cores

end Given

end CommandLine

end Liveness
