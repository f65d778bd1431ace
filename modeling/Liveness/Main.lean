import Liveness.Program

/-!
# Running the programs

The first argument names the program. Nothing is decided here: the environment is read,
the program is run, and what it leaves behind is written out.
-/

namespace Liveness

namespace Main

/-- The variables that the programs look at. -/
def settingNames : List String :=
  ["PROBE_HOST", "PROBE_PORT", "PROBE_COUNT", "PROBE_CONCURRENCY", Program.portVariable,
    Program.filterVariable]

def environment : IO CommandLine.Environment :=
  settingNames.filterMapM fun name => do
    return (← IO.getEnv name).map fun value => (name, value)

/-- The number of workers of a batch when nothing sets it. -/
def cores : UInt64 := 4

def present (exit : Program.Exit) : IO UInt32 := do
  for line in exit.shown do
    IO.eprintln line
  let out ← IO.getStdout
  out.write ⟨exit.output.toArray⟩
  out.flush
  return exit.code.toUInt32

def runTarget (env : CommandLine.Environment) : IO UInt32 := do
  let start := Program.startTarget env fun _ => false
  match Program.exitOfStart start with
  | some exit => present exit
  | none =>
    IO.eprintln ("Error: " ++ Client.noNetwork)
    return 1

end Main

end Liveness

open Liveness in
def main (arguments : List String) : IO UInt32 := do
  let env ← Main.environment
  match arguments with
  | "probe" :: rest =>
    Main.present (Program.runProbe .single Main.cores Schedule.workersFirst rest env)
  | "probe-concurrent" :: rest =>
    Main.present (Program.runProbe .batch Main.cores Schedule.workersFirst rest env)
  | "mock-server" :: _ => Main.runTarget env
  | _ =>
    IO.eprintln "Usage: probe | probe-concurrent | mock-server, and its arguments"
    return 2
