import Liveness.CommandLine.Parser
import Liveness.Failure
import Liveness.Text.Terminal

/-!
# What the command line tells the user

The help lists the options in two columns: how an option is written, and what it does,
with its variable, the value that the variable has, and the default. Names of options and
the user's own words are set off by their style, which also ends any sequence for a
terminal that these words leave unfinished.
-/

namespace Liveness

namespace CommandLine

def programVersion : String := "probe-cli 0.1.0"

/-- An option with its letter, if it has one; `mark` is put on the letter and on the name. -/
def optionText (mark : String → String) (k : Key) : String :=
  (match k.letter? with
    | some letter => mark (String.ofList ['-', letter]) ++ ", "
    | none => "    ")
    ++ mark ("--" ++ k.name) ++ k.valueName?.elim "" fun v => " <" ++ v ++ ">"

def optionWidth (k : Key) : Nat := (optionText id k).length

def columnWidth (c : Command) : Nat :=
  (c.keys.map optionWidth).foldl max 0

/-- What an option does, where else it can be set, and its default. -/
def optionHelp (c : Command) (env : Environment) (k : Key) : String :=
  k.about
    ++ (k.setting?.elim "" fun name =>
      " [env: " ++ name ++ "=" ++ (valueOf? env name).getD "" ++ "]")
    ++ (c.defaultText? k).elim "" fun text => " [default: " ++ text ++ "]"

/-- A line of the list of options; a text of several lines stays in its column. -/
def optionLine (c : Command) (env : Environment) (k : Key) : String :=
  let width := columnWidth c
  let gap := String.ofList (List.replicate (width + 2 - optionWidth k) ' ')
  let margin := String.ofList (List.replicate (width + 4) ' ')
  "  " ++ optionText Terminal.emphasized k ++ gap ++ Failure.indentRest margin (optionHelp c env k)

def helpText (c : Command) (env : Environment) : String :=
  c.about ++ "\n\nUsage: " ++ c.name ++ " [OPTIONS]\n\nOptions:\n"
    ++ String.join (c.keys.map fun k => optionLine c env k ++ "\n")

namespace Fault

/-- Whether what was asked for is shown, and nothing is wrong. -/
def isRequest : Fault → Bool
  | .help => true
  | .version => true
  | _ => false

/-- What is said about a fault, in style: what the user wrote is set off. -/
def text (c : Command) (env : Environment) : Fault → String
  | .missingValue key =>
    "error: a value is required for '" ++ key.usage ++ "' but none was supplied"
  | .invalidValue key value reason =>
    "error: invalid value '" ++ Terminal.emphasized value ++ "' for '" ++ key.usage ++ "': "
      ++ reason
  | .unknown argument =>
    "error: unexpected argument '" ++ Terminal.emphasized argument ++ "' found"
  | .repeated key => "error: the argument '" ++ key.usage ++ "' cannot be used multiple times"
  | .unwantedValue key value =>
    "error: unexpected value '" ++ Terminal.emphasized value ++ "' for '" ++ key.usage
      ++ "' found; no more were expected"
  | .help => helpText c env
  | .version => programVersion ++ "\n"

/-- What is shown for a fault where there is no style. -/
def message (m : Terminal.Medium) (c : Command) (env : Environment) (fault : Fault) : String :=
  Terminal.plain m (fault.text c env)

end Fault

end CommandLine

end Liveness
