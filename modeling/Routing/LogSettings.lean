/-! Settings of the log, read from the environment. -/
namespace Routing

inductive LogLevel
  | trace
  | debug
  | info
  | warn
  | error
deriving DecidableEq, Repr

def LogLevel.name : LogLevel → String
  | trace => "TRACE"
  | debug => "DEBUG"
  | info => "INFO"
  | warn => "WARN"
  | error => "ERROR"

inductive LogFormat
  | json
  | pretty
deriving DecidableEq, Repr

/-- Every word but `json`, whatever its case, means the pretty format. -/
def LogFormat.ofName (name : String) : LogFormat :=
  if name.toList.map Char.toLower = "json".toList then .json else .pretty

def LogFormat.name : LogFormat → String
  | json => "json"
  | pretty => "pretty"

structure LogSettings where
  /-- The level as it is written. -/
  levelName : String := "warn"
  format : LogFormat := .pretty
  /-- More filter directives, with commas between them. -/
  targetFilter : Option String := none
  /-- Whether lines name the place in the program that they come from. -/
  includeLocation : Bool := false
deriving DecidableEq, Repr

namespace LogSettings

def truth? : String → Option Bool
  | "true" => some true
  | "false" => some false
  | _ => none

def ofEnvironment (lookup : String → Option String) : LogSettings where
  levelName := (lookup "WAYPOINT_LOG_LEVEL").getD "warn"
  format := ((lookup "WAYPOINT_LOG_FORMAT").map LogFormat.ofName).getD .pretty
  targetFilter := lookup "WAYPOINT_LOG_TARGET_FILTER"
  includeLocation := ((lookup "WAYPOINT_LOG_INCLUDE_LOCATION").bind truth?).getD false

def withLevel (settings : LogSettings) (name : String) : LogSettings :=
  { settings with levelName := name }

/-- The level that the name stands for, whatever its case; an unknown name means `info`. -/
def level (settings : LogSettings) : LogLevel :=
  match String.ofList (settings.levelName.toList.map Char.toLower) with
  | "trace" => .trace
  | "debug" => .debug
  | "warn" => .warn
  | "error" => .error
  | _ => .info

end LogSettings
end Routing
