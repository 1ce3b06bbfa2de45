import Routing.Failure
import Routing.Resource.Expansion
import Routing.Table.Entry
import Routing.Text.Quoted

/-! Making a router from a route table: the single routes in their order, then the resources. -/
namespace Routing

namespace ResourceEntry

def actions (kind name : String) (methods : Values) : Except Failure (List (String × MethodMask)) :=
  methods.toList.mapM fun (action, list) => do
    let mask ← inTask (kind ++ " action '" ++ action ++ "' of '" ++ name ++ "'") (MethodMask.parse list)
    return (action, mask)

mutual

/-- The resource that an entry describes. Actions of its own are added after `only` and `except`. -/
def toResource : ResourceEntry → Except Failure Resource
  | ⟨name, plural, only, except, shallow, idPattern, member, collection, parameters, resources⟩ => do
    let r := Resource.new name plural
    let r := match only with
      | some names => r.only names
      | none => r
    let r := r.except except
    let r := (← actions "member" name member).foldl (fun r (action, mask) => r.withMember action mask) r
    let r := (← actions "collection" name collection).foldl
      (fun r (action, mask) => r.withCollection action mask) r
    let r := parameters.toList.foldl (fun r (key, value) => r.withParameter key value) r
    let r := match idPattern with
      | some pattern => r.withIdPattern pattern
      | none => r
    return (← toResources resources).foldl Resource.nest (r.withShallow shallow)

def toResources : List ResourceEntry → Except Failure (List Resource)
  | [] => return []
  | entry :: rest => do
    let r ← entry.toResource
    return r :: (← toResources rest)

end

end ResourceEntry

namespace RouteEntry

def mask (entry : RouteEntry) : Except Failure MethodMask :=
  inTask ("invalid methods " ++ Text.quotedList entry.methods)
    (MethodMask.parse ("|".intercalate entry.methods))

/-- Enters the route of an entry, and then gives it its patterns and defaults. -/
def register (entry : RouteEntry) : Registration Failure Unit := do
  let task (name : String) (x : Registration Error Unit) : Registration Failure Unit :=
    x.mapError fun e => (Failure.ofError e).inside name
  let mask ← match entry.mask with
    | .ok mask => pure mask
    | .error e => throw e
  task ("registering route '" ++ entry.path ++ "'") (Registration.enter fun router =>
    if entry.decorated then router.addDecorated entry.path mask entry.name
    else router.add entry.path mask entry.name)
  for (name, pattern) in entry.patterns.toList do
    task ("pattern for '" ++ name ++ "' in '" ++ entry.path ++ "'")
      (Registration.configureLast (·.specify name pattern))
  Registration.amendLast (·.addParameters entry.defaults.toList)

end RouteEntry

def ResourceEntry.register (entry : ResourceEntry) : Registration Failure Unit := do
  let resource ← match entry.toResource with
    | .ok resource => pure resource
    | .error e => throw e
  let _ ← resource.register.mapError fun e =>
    (Failure.ofError e).inside ("registering resource '" ++ entry.name ++ "'")

namespace RouteTable

/-- Reports a table whose routes are all registered. -/
def loadedEvent (table : RouteTable) (count : Nat) : Event where
  level := .info
  message := "Route table loaded"
  fields := [("routes_count", .number count), ("literal_routes", .number table.routes.length),
    ("resources", .number table.resources.length)]

def registerAll (table : RouteTable) : Registration Failure Unit := do
  table.routes.forM RouteEntry.register
  table.resources.forM ResourceEntry.register
  Registration.report (table.loadedEvent (← get).router.routes.size)

/-- A router with the routes of the table, and the events of making it. -/
def toRouter (table : RouteTable) : Except Failure Router × List Event :=
  let router := (Router.ofConfig table.config).addGlobals table.globals.toList
  match table.registerAll.run router with
  | (.ok (), session) => (.ok session.router, session.events)
  | (.error e, session) => (.error e, session.events)

end RouteTable
end Routing
