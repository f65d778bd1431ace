import Liveness.CommandLine.Help
import Liveness.FrontEnd
import Liveness.Http.Client
import Liveness.Log.Filter
import Liveness.Target.Port

/-!
# The three programs

What each program does with its arguments and its environment: the two probes run a front
end over the client, and the target opens its port and listens. A program ends with a
code, has written output, and has shown log records and messages to the user.
-/

namespace Liveness

namespace Program

open CommandLine

structure Exit where
  code : UInt8
  output : List UInt8
  /-- what the user is shown, in order -/
  shown : List String

def filterVariable : String := "RUST_LOG"

def filterOf (env : Environment) : Except Utf8.Split Filter :=
  Filter.ofSetting (valueOf? env filterVariable)

/-- What a program leaves behind that is aborted with a message. -/
def aborted (message : String) : Exit := ⟨101, [], [message]⟩

/-! ## Probes -/

/-- Runs the front end of a command over the client, on a system that has whatever it is asked
for. -/
def probe (c : Command) (cores : UInt64) (σ : Schedule) (arguments : List String)
    (env : Environment) : Except CommandLine.Fault (FrontEnd.Run Unit) :=
  (parse c arguments env).map fun given =>
    let prober : Prober Unit String := ⟨given.config cores c, Client.transport⟩
    let session := Session.begin ()
    match c with
    | .single => FrontEnd.single prober session Sink.endless
    | .batch => FrontEnd.batch prober given.strict given.json σ session Sink.endless

def failureText (f : Failure) : String := "Error: " ++ f.report

def endingShown : Ending Failure Unit → UInt8 × List String
  | .value () => (0, [])
  | .failure f => (1, [failureText f])
  | .abort message => (101, [message])
  | .stalled => (101, [])

/-- What a probe leaves behind once it has run. -/
def exitOfRun (filter : Filter) (run : FrontEnd.Run Unit) : Exit :=
  let records := filter.records (Event.notices run.session.history)
  let (code, messages) := endingShown run.ending
  ⟨code, run.sink.bytes, records ++ messages⟩

/-- What a probe leaves behind that does not run its arguments. -/
def exitOfFault (c : Command) (env : Environment) (fault : CommandLine.Fault) : Exit :=
  let text := fault.message .stream c env
  if fault.isRequest then ⟨0, Utf8.encode text.toList, []⟩ else ⟨2, [], [text]⟩

/-- Runs a probe. The log is set up after the arguments are read. -/
def runProbe (c : Command) (cores : UInt64) (σ : Schedule) (arguments : List String)
    (env : Environment) : Exit :=
  match probe c cores σ arguments env, filterOf env with
  | .error fault, _ => exitOfFault c env fault
  | .ok _, .error split => aborted split.message
  | .ok run, .ok filter => exitOfRun filter run

/-! ## The target -/

def portVariable : String := "PORT"

def defaultPortText : String := "8000"

inductive Start where
  /-- the log cannot be set up -/
  | noLog (split : Utf8.Split)
  /-- the port is none that a target takes -/
  | badPort
  | occupied (cause : OsError)
  /-- the records say so if the log lets them through -/
  | listening (records : List String)
deriving Repr, DecidableEq

/-- Sets up the log and opens the port, where `taken` says which ports are in use. -/
def startTarget (env : Environment) (taken : UInt16 → Bool) : Start :=
  match filterOf env, Port.parse? ((valueOf? env portVariable).getD defaultPortText) with
  | .error split, _ => .noLog split
  | .ok _, none => .badPort
  | .ok filter, some port =>
    if taken port then .occupied (.code OsError.addressInUse)
    else .listening (filter.records [.listening ("0.0.0.0:" ++ Numeral.decimal port.toNat)])

def usageLines : List String :=
  ["Usage: PORT=<port> mock-server",
    "PORT must be in range " ++ Numeral.decimal Port.lowest ++ " to "
      ++ Numeral.decimal Port.highest ++ " and represents the port the server will run on."]

/-- A fault of the system with its number and kind. -/
def systemDetail : OsError → String
  | .code n =>
    "Os \x7b code: " ++ Numeral.signedDecimal n ++ ", kind: "
      ++ (if n = OsError.addressInUse then "AddrInUse" else "Uncategorized")
      ++ ", message: " ++ quote (OsError.wording n) ++ " \x7d"
  | .other text => "Custom \x7b kind: Other, error: " ++ quote text ++ " \x7d"

/-- What the program of a target leaves behind if it does not get to listen. -/
def exitOfStart : Start → Option Exit
  | .noLog split => some (aborted split.message)
  | .badPort => some ⟨1, [], usageLines⟩
  | .occupied cause => some ⟨1, [], ["Error: " ++ systemDetail cause]⟩
  | .listening _ => none

end Program

end Liveness
