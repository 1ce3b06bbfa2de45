import Routing.Router.Registry
import Routing.Text.Percent

/-! Generating the path of a named route from values for its parameters. -/
namespace Routing.Router

def supply (pairs : List (String × String)) (key value : String) : List (String × String) :=
  if pairs.any (·.1 == key) then pairs.map fun (k, v) => if k = key then (k, value) else (k, v)
  else pairs ++ [(key, value)]

/-- Each key once, at its first place and with its last value. -/
def supplied (pairs : List (String × String)) : List (String × String) :=
  pairs.foldl (fun pairs (key, value) => supply pairs key value) []

/-- The path and the pairs that are no parameters of the route: as a query behind the path, or both
in one query. -/
def assemble (shortUrls : Bool) (path : String) (extras : List (String × String)) : String :=
  if shortUrls then
    if extras.isEmpty then path
    else path ++ (if path.toList.contains '?' then "&" else "?") ++ Text.encodeQuery extras
  else "?" ++ Text.encodeQuery (("path", path) :: extras)

/-- Generates the path of a route: the value of a parameter is the one given, or else its default.
All parameters without either are reported at once. -/
def generate (r : Router) (shortUrls : Bool) (name : String) (pairs : List (String × String)) :
    Except Error String := do
  let route ← r.getRoute name
  let given := supplied pairs
  let value? (key : String) : Option String := (given.lookup key).or route.defaults[key]?
  let missing := route.parameterNames.filter fun key => (value? key).isNone
  if !missing.isEmpty then throw (.missingParameters name missing)
  let extras := given.filter fun (key, _) => !route.parameterNames.contains key
  return assemble shortUrls (route.interpolate value?) extras

def generatedEvent (name generated : String) : Event where
  level := .debug
  message := "Generated path"
  fields := [("route_name", .text name), ("generated", .text generated)]

end Routing.Router
