import Routing.CommandLine.Execution
import Routing.CommandLine.Log

/-! The command line program. -/
open Routing Routing.CommandLine

namespace Routing.CommandLine

def usage : String :=
  "Inspect, match and generate routes from a route table\n\n" ++
  "Usage:\n" ++
  "  waypoint routes --table <TABLE>\n" ++
  "  waypoint match --table <TABLE> [--method <METHOD>] <PATH>\n" ++
  "  waypoint generate --table <TABLE> [--long-urls] <NAME> [KEY=VALUE]...\n" ++
  "  waypoint help\n"

def UsageError.message : UsageError → String
  | help | noCommand => ""
  | unknownCommand => "error: there is no such command\n\n"
  | missingArgument => "error: an argument is missing\n\n"
  | missingValue => "error: an option has no value\n\n"
  | unknownArgument => "error: there is an argument that is not known here\n\n"
  | repeatedOption => "error: an option is given more than once\n\n"
  | needlessValue => "error: a value is attached to an option that takes none\n\n"

def readFile (path : String) : IO (Except FileFault String) := do
  try
    return textOf (← IO.FS.readBinFile path)
  catch
    | .noFileOrDirectory .. => return .error .missing
    | e => return .error (.other (toString e))

/-- The environment variables that are looked up. -/
def variableNames : List String :=
  ["WAYPOINT_PREFIX", "WAYPOINT_SUFFIX", "WAYPOINT_DEFAULT_PATTERN", "WAYPOINT_CHUNK_SIZE",
    "WAYPOINT_SHORT_URLS", "WAYPOINT_LOG_LEVEL", "WAYPOINT_LOG_FORMAT", "WAYPOINT_LOG_TARGET_FILTER",
    "WAYPOINT_LOG_INCLUDE_LOCATION"]

end Routing.CommandLine

def main (args : List String) : IO UInt32 := do
  match Command.ofArguments args with
  | .error .help =>
    IO.print usage
    return 0
  | .error e =>
    IO.eprint (e.message ++ usage)
    return 2
  | .ok command =>
    let text ← readFile command.table
    let values ← variableNames.filterMapM fun name => do return (← IO.getEnv name).map (name, ·)
    let variableOf (name : String) := values.lookup name
    let (result, events) := command.run { read := fun _ => text, variableOf }
    for line in (LogSettings.ofEnvironment variableOf).lines events do IO.eprintln line
    match result with
    | .ok text =>
      IO.print text
      return 0
    | .error f =>
      IO.eprintln ("error: " ++ ": ".intercalate f.messages)
      return 1
