import Routing.CommandLine.Command
import Routing.CommandLine.File
import Routing.Json.Quoted
import Routing.Router.Generator
import Routing.Router.Matcher
import Routing.Table.Loading
import Routing.Table.Reading

/-! Carrying out commands: each of them loads a route table and writes some lines. -/
namespace Routing.CommandLine

structure Surroundings where
  /-- The text of a file. -/
  read : String → Except FileFault String
  /-- The value of an environment variable. -/
  variableOf : String → Option String

/-- A computation that reports events and may fail. -/
abbrev Execution := ExceptT Failure (StateM (List Event))

namespace Execution

def report (events : List Event) : Execution Unit := modify (· ++ events)

def ofExcept {α : Type} : Except Failure α → Execution α
  | .ok a => pure a
  | .error e => throw e

/-- A step of the router, which is in no task of its own. -/
def step {α : Type} (x : Except Error α) : Execution α := ofExcept (x.mapError Failure.ofError)

end Execution

/-- Reads a table; the extension of the file tells its format. -/
def readTable (s : Surroundings) (path : String) : Except Failure RouteTable :=
  match s.read path with
  | .error fault =>
    .error { context := ["reading route table " ++ path], cause := .unreadable fault.message }
  | .ok text =>
    let isYaml := (extension? path).any fun e => e == "yaml" || e == "yml"
    match if isYaml then RouteTable.ofYaml? text else RouteTable.ofJson? text with
    | some table => .ok table
    | none => .error { context := ["parsing route table " ++ path], cause := .malformed }

def loadedEvent (path : String) (router : Router) : Event where
  level := .debug
  message := "Loaded route table"
  fields := [("table", .text path), ("routes_count", .number router.routes.size)]

/-- Makes the router of a table. The environment overrides the settings of the table. -/
def loadRouter (s : Surroundings) (path : String) : Execution Router := do
  let table ← Execution.ofExcept (readTable s path)
  let (result, events) := { table with config := table.config.override s.variableOf }.toRouter
  Execution.report events
  let router ← Execution.ofExcept result
  Execution.report [loadedEvent path router]
  return router

/-- The verbs of a route; one without any restriction takes them all. -/
def verbs (r : Route) : MethodMask := r.method.getD .any

/-- A route on a line: its name, filled up to 28 characters, its verbs and its template. -/
def routeLine (r : Route) : String :=
  r.name.pushn ' ' (28 - r.name.length) ++ " " ++ (verbs r).display ++ " " ++ r.template ++ "\n"

/-- A JSON object with a line for each member, the values being written already. The lines after
the first are indented. -/
def objectText (indent : String) (members : List (String × String)) : String :=
  if members.isEmpty then "\x7b\x7d"
  else
    "\x7b\n" ++
      ",\n".intercalate (members.map fun (key, value) => indent ++ "  " ++ Json.quote key ++ ": " ++ value) ++
      "\n" ++ indent ++ "\x7d"

def matchText (m : Match) : String :=
  objectText "" [
    ("route", Json.quote m.route.name),
    ("method", Json.quote (verbs m.route).display),
    ("template", Json.quote m.route.template),
    ("parameters", objectText "  " (m.parameters.toList.map fun (key, value) => (key, Json.quote value)))] ++
    "\n"

def keyAndValue (s : String) : Except Failure (String × String) :=
  match Grammar.attachment s.toList with
  | (key, some value) => .ok (String.ofList key, String.ofList value)
  | (_, none) => .error { cause := .other ("expected key=value, got '" ++ s ++ "'") }

/-- Carries out a command, and gives what it writes. The arguments are checked before the table is
loaded. -/
def Command.execute (s : Surroundings) : Command → Execution String
  | list table => do
    let router ← loadRouter s table
    Execution.report router.dumpEvents
    return String.join (router.routes.toList.map routeLine)
  | resolve table method path => do
    let mask ← Execution.ofExcept
      (inTask ("unsupported method '" ++ method ++ "'") (MethodMask.parse method))
    let router ← loadRouter s table
    let matcher ← Execution.step (Matcher.ofRouter router)
    Execution.report [matcher.compiledEvent]
    let resolution := matcher.resolve path mask
    Execution.report (Matcher.events path mask resolution)
    match resolution.match? with
    | some found => return matchText found
    | none => throw { cause := .other ("no route matches " ++ mask.display ++ " " ++ path) }
  | generate table name pairs longUrls => do
    let pairs ← Execution.ofExcept (pairs.mapM keyAndValue)
    let router ← loadRouter s table
    let url ← Execution.step (router.generate (router.config.shortUrls && !longUrls) name pairs)
    Execution.report [Router.generatedEvent name url]
    return url ++ "\n"

def Command.run (s : Surroundings) (command : Command) : Except Failure String × List Event :=
  (command.execute s).run.run []

end Routing.CommandLine
