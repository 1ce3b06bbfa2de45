/-! What can go wrong while routes are registered, and while paths are generated from them. -/
namespace Routing

inductive Error
  /-- No route has this name. -/
  | routeNotFound (name : String)
  /-- No route without placeholders has this path. -/
  | staticRouteNotFound (uri : String)
  /-- The name belongs to an earlier route. -/
  | duplicateRoute (name : String)
  /-- Placeholders that have neither a given value nor a default. -/
  | missingParameters (route : String) (names : List String)
  /-- A method mask holds at least one verb and nothing else. -/
  | invalidMethodMask (bits : Nat)
  | unsupportedMethod (verb : String)
  /-- The text is no regular expression. -/
  | invalidPattern (pattern : String)
  /-- A placeholder name may stand only once in a template. -/
  | duplicatePlaceholder (name template : String)
  /-- The pattern of a placeholder opens a capturing group of its own. -/
  | capturingGroup (name pattern : String)
deriving DecidableEq, Repr

namespace Error

def message : Error → String
  | routeNotFound name => "route '" ++ name ++ "' not found"
  | staticRouteNotFound uri => "no static route registered for uri '" ++ uri ++ "'"
  | duplicateRoute name => "a route named '" ++ name ++ "' is already registered"
  | missingParameters route names =>
    "cannot generate route '" ++ route ++ "': missing parameters " ++ ", ".intercalate names
  | invalidMethodMask bits => "method mask " ++ toString bits ++ " is outside the range [1, 15]"
  | unsupportedMethod verb => "unsupported HTTP method '" ++ verb ++ "'"
  | invalidPattern pattern => "invalid pattern '" ++ pattern ++ "'"
  | duplicatePlaceholder name template =>
    "placeholder '" ++ name ++ "' appears more than once in '" ++ template ++ "'"
  | capturingGroup name pattern =>
    "pattern '" ++ pattern ++ "' for placeholder '" ++ name ++
      "' contains a capturing group; use (?:...) instead"

instance : ToString Error := ⟨message⟩

end Error
end Routing
