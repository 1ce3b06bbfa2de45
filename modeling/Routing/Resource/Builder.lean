import Routing.Method
import Routing.Unicode.Case

/-! Resources: groups of conventional routes, described before they are entered into a router. -/
namespace Routing

structure Action where
  method : MethodMask
  /-- Whether it stands at the path of its group, and not one step below under its name. -/
  bare : Bool
deriving DecidableEq, Repr

/-- The actions of a group by name, each name once. -/
abbrev Actions := List (String × Action)

/-- Replaces the action with that name in its place, or adds it at the end. -/
def Actions.put (actions : Actions) (name : String) (action : Action) : Actions :=
  if actions.any (·.1 == name) then actions.map fun (n, a) => if n = name then (n, action) else (n, a)
  else actions ++ [(name, action)]

/-- Words joined, each with its first letter in upper case. Underscores, dashes and spaces separate
words. -/
def camelCase (name : String) : String :=
  String.join ((Text.splitWhere (fun c => c == '_' || c == '-' || c == ' ') name.toList).map fun
    | [] => ""
    | first :: rest => Unicode.upperCase first ++ String.ofList rest)

structure Resource where
  singular : String
  /-- A resource without a plural is the only one of its kind. -/
  plural : Option String
  /-- Actions on the resource as a whole. -/
  collection : Actions
  /-- Actions on one of many. -/
  member : Actions
  /-- The pattern of the identifier, here and in the routes of nested resources. -/
  idPattern : Option String := none
  /-- Whether member routes leave out the resources around this one. -/
  shallow : Bool := false
  /-- Defaults of every route of the resource. -/
  parameters : List (String × String)
  /-- The resources nested in this one. -/
  children : List Resource := []

namespace Resource

def bare (method : MethodMask) : Action := ⟨method, true⟩

def named (method : MethodMask) : Action := ⟨method, false⟩

def new (singular : String) (plural : Option String) : Resource where
  singular
  plural
  collection :=
    if plural.isSome then
      [("index", bare .get), ("new", named .get), ("create", bare .post)]
    else
      [("show", bare .get), ("new", named .get), ("create", bare .post), ("edit", named .get),
        ("update", bare .put), ("destroy", bare .delete)]
  member :=
    if plural.isSome then
      [("show", bare .get), ("edit", named .get), ("update", bare .put), ("destroy", bare .delete)]
    else []
  parameters := [("controller", camelCase (plural.getD singular))]

def isSingleton (r : Resource) : Bool := r.plural.isNone

def isParent (r : Resource) : Bool := !r.children.isEmpty

def controller (r : Resource) : String := (r.parameters.lookup "controller").getD ""

/-- The parameter for the identifier; with nested resources it names the resource. -/
def idToken (r : Resource) : String := if r.isParent then r.singular ++ "_id" else "id"

def only (r : Resource) (names : List String) : Resource :=
  { r with
    collection := r.collection.filter (names.contains ·.1)
    member := r.member.filter (names.contains ·.1) }

def except (r : Resource) (names : List String) : Resource :=
  { r with
    collection := r.collection.filter (!names.contains ·.1)
    member := r.member.filter (!names.contains ·.1) }

/-- Adds an action on one of many; the only one of a kind has none. -/
def withMember (r : Resource) (name : String) (method : MethodMask) : Resource :=
  if r.isSingleton then r else { r with member := r.member.put name (named method) }

def withCollection (r : Resource) (name : String) (method : MethodMask) : Resource :=
  { r with collection := r.collection.put name (named method) }

def nest (r child : Resource) : Resource :=
  { r with children := r.children ++ [child] }

def withShallow (r : Resource) (shallow : Bool) : Resource :=
  { r with shallow }

def withIdPattern (r : Resource) (pattern : String) : Resource :=
  { r with idPattern := some pattern }

/-- Sets a default of every route; a key that is there already keeps its place. -/
def withParameter (r : Resource) (key value : String) : Resource :=
  { r with
    parameters :=
      if r.parameters.any (·.1 == key) then
        r.parameters.map fun (k, v) => if k = key then (k, value) else (k, v)
      else r.parameters ++ [(key, value)] }

end Resource
end Routing
