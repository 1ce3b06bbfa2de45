import Std.Data.TreeMap
import Routing.Event
import Routing.Method
import Routing.Pattern
import Routing.Template

/-! Routes: a template with a pattern for each of its parameters, and the regular expression that
accepts the paths of the route. -/
namespace Routing

abbrev Values := Std.TreeMap String String

inductive Segment
  | literal (text : String)
  | param (name : String)
deriving DecidableEq, Repr

def Segment.display : Segment → String
  | literal text => text
  | param name => "\x7b" ++ name ++ "\x7d"

/-- The regular expression of a route: its text, and the pattern of the paths that match it whole. -/
structure RouteRegex where
  source : String
  anchored : Pattern
deriving DecidableEq, Repr

structure Route where
  /-- Empty until the route is registered. -/
  name : String := ""
  /-- The template as it was given. -/
  template : String
  segments : List Segment
  /-- The verbs that the route accepts; `none` means any. -/
  method : Option MethodMask
  /-- Each parameter with its pattern, in the order of the template. -/
  patterns : List (String × String)
  /-- A route without parameters has none. -/
  regex : Option RouteRegex
  /-- Values for parameters that are not given, and constants that every match carries. -/
  defaults : Values := {}

namespace Route

/-- The template with each placeholder reduced to its name. -/
def path (r : Route) : String :=
  String.join (r.segments.map Segment.display)

/-- Whether the path is the same text for every request. -/
def isStatic (r : Route) : Bool := r.patterns.isEmpty

def parameterNames (r : Route) : List String := r.patterns.map Prod.fst

def parameterCount (r : Route) : Nat := r.patterns.length

/-- Literals quoted, and each parameter as a group around its pattern. -/
def spliced (segments : List Segment) (patterns : List (String × String)) : String :=
  String.join (segments.map fun
    | .literal text => Pattern.quote text
    | .param name => "(" ++ (patterns.lookup name).getD "" ++ ")")

/-- The regular expression for the given segments and patterns; static routes have none. -/
def compileRegex (segments : List Segment) (patterns : List (String × String)) :
    Except Error (Option RouteRegex) :=
  if patterns.isEmpty then .ok none
  else
    let source := spliced segments patterns
    let anchored := "^" ++ source ++ "$"
    match Pattern.compile? anchored with
    | some p => .ok (some ⟨source, p⟩)
    | none => .error (.invalidPattern anchored)

/-- A pattern for a parameter must be a regular expression by itself, without capturing groups. -/
def validatePattern (name pattern : String) : Except Error Unit :=
  match Pattern.compile? pattern with
  | none => .error (.invalidPattern pattern)
  | some p => if p.groupCount = 0 then .ok () else .error (.capturingGroup name pattern)

/-- The parameters of the pieces, after those `before` them. A name may not come twice; a
placeholder without a pattern has the default one. -/
def parameters (defaultPattern template : String) (before : List (String × String)) :
    List Piece → Except Error (List (String × String))
  | [] => .ok before
  | .literal _ :: pieces => parameters defaultPattern template before pieces
  | .placeholder p :: pieces => do
    let name := String.ofList p.name
    if (before.lookup name).isSome then throw (.duplicatePlaceholder name template)
    let pattern := if p.pattern.isEmpty then defaultPattern else String.ofList p.pattern
    validatePattern name pattern
    parameters defaultPattern template (before ++ [(name, pattern)]) pieces

def segment : Piece → Segment
  | .literal text => .literal (String.ofList text)
  | .placeholder p => .param (String.ofList p.name)

def parse (defaultPattern template : String) (method : Option MethodMask) : Except Error Route := do
  let pieces := Piece.ofTemplate template
  let patterns ← parameters defaultPattern template [] pieces
  let segments := pieces.map segment
  let regex ← compileRegex segments patterns
  return { template, segments, method, patterns, regex }

/-- Gives a parameter another pattern. A name that is no parameter changes nothing. -/
def specify (r : Route) (name pattern : String) : Except Error Route := do
  if !r.parameterNames.contains name then return r
  validatePattern name pattern
  let patterns := r.patterns.map fun (n, p) => if n = name then (n, pattern) else (n, p)
  return { r with patterns, regex := ← compileRegex r.segments patterns }

def setMethod (r : Route) (bits : Nat) : Except Error Route := do
  return { r with method := some (← MethodMask.ofBits bits) }

/-- Whether the route accepts a request with one of the given verbs, `none` being any. -/
def isMethod (r : Route) (requested : Option MethodMask) : Bool :=
  match requested, r.method with
  | some requested, some accepted => accepted.intersects requested
  | _, _ => true

/-- Adds a default; a key that is there already keeps its value. -/
def set (r : Route) (key value : String) : Route :=
  { r with defaults := r.defaults.insertIfNew key value }

def addParameters (r : Route) (pairs : List (String × String)) : Route :=
  pairs.foldl (fun r (key, value) => r.set key value) r

def display (r : Route) : String :=
  (match r.method with
    | some mask => mask.display
    | none => "ANY") ++ " " ++ r.path

/-- The path with values in the place of parameters; a parameter without a value stays. -/
def interpolate (r : Route) (value? : String → Option String) : String :=
  String.join (r.segments.map fun
    | .literal text => text
    | .param name => (value? name).getD (Segment.param name).display)

def captures? (r : Route) (path : String) : Option (List (Option String)) :=
  r.regex.bind (·.anchored.captures? path)

def parsedEvent (r : Route) : Event where
  level := .debug
  message := "Parsed route template"
  fields := [("template", .text r.template), ("path", .text r.path),
    ("parameters", .number r.parameterCount), ("is_static", .flag r.isStatic)]

end Route
end Routing
