import Routing.Router.Chunk

/-! Resolving a path and a set of verbs to the first route that accepts both. Static routes come
before all others. -/
namespace Routing

structure Match where
  route : Route
  parameters : Values

/-- The defaults of the route, with the extracted values over them. -/
def Match.of (route : Route) (extracted : List (String × String)) : Match where
  route
  parameters := extracted.foldl (fun values (key, value) => values.insert key value) route.defaults

/-- A matcher keeps a table of chunks for each verb, and one for requests of any verb. -/
structure Matcher where
  router : Router
  get : ChunkTable
  post : ChunkTable
  put : ChunkTable
  delete : ChunkTable
  any : ChunkTable
  chunkSize : Nat

inductive Resolution
  | static (route : Route)
  | dynamic (route : Route) (values : List (String × String))
  | nothing

namespace Resolution

def match? : Resolution → Option Match
  | static route => some (.of route [])
  | dynamic route values => some (.of route values)
  | nothing => none

end Resolution

namespace Matcher

/-- Compiles the tables, that of each verb before the one for all. -/
def ofRouter (router : Router) : Except Error Matcher := do
  let size := router.config.effectiveChunkSize
  let members := router.dynamicRoutes
  let table (verb : MethodMask) := ChunkTable.compile size (members.filter (·.2.isMethod (some verb)))
  return {
    router
    get := ← table .get
    post := ← table .post
    put := ← table .put
    delete := ← table .delete
    any := ← ChunkTable.compile size members
    chunkSize := size }

def table (m : Matcher) : Verb → ChunkTable
  | .get => m.get
  | .post => m.post
  | .put => m.put
  | .delete => m.delete

def chunkCount (m : Matcher) : Nat := m.any.length

/-- Of several finds the one registered first. -/
def earliest? : List (Nat × List String) → Option (Nat × List String)
  | [] => none
  | found :: rest =>
    match earliest? rest with
    | some other => if other.1 < found.1 then some other else some found
    | none => some found

/-- The first dynamic route that accepts the path and one of the verbs. -/
def findDynamic? (m : Matcher) (path : String) : Option MethodMask → Option (Nat × List String)
  | none => m.any.find? path
  | some mask =>
    match mask.verb? with
    | some verb => (m.table verb).find? path
    | none => earliest? (mask.verbs.filterMap fun verb => (m.table verb).find? path)

/-- Resolves a request; `none` stands for any verb. -/
def resolve (m : Matcher) (path : String) (mask : Option MethodMask) : Resolution :=
  match (m.router.staticRoutesAt path).find? (·.isMethod mask) with
  | some route => .static route
  | none =>
    match m.findDynamic? path mask with
    | none => .nothing
    | some (position, values) =>
      match m.router.routeAt? position with
      | some route => .dynamic route (route.parameterNames.zip values)
      | none => .nothing

def matchPath (m : Matcher) (path : String) (mask : Option MethodMask) : Option Match :=
  (m.resolve path mask).match?

def compiledEvent (m : Matcher) : Event where
  level := .info
  message := "Route matcher compiled"
  fields :=
    let dynamic := m.router.dynamicRoutes.length
    [("routes_count", .number m.router.routes.size),
      ("static_count", .number (m.router.routes.size - dynamic)), ("dynamic_count", .number dynamic),
      ("chunk_count", .number m.chunkCount), ("chunk_size", .number m.chunkSize)]

def events (path : String) (mask : Option MethodMask) (resolution : Resolution) : List Event :=
  let verbs := match mask with
    | some mask => "Some(\"" ++ mask.display ++ "\")"
    | none => "None"
  [{ level := .debug, message := "Route match attempt",
     fields := [("path", .text path), ("method", .text verbs)] },
   match resolution with
    | .static route =>
      { level := .debug, message := "Static route matched",
        fields := [("route_name", .text route.name), ("path", .text path)] }
    | .dynamic route _ =>
      { level := .debug, message := "Dynamic route matched",
        fields := [("route_name", .text route.name), ("route_pattern", .text route.path)] }
    | .nothing =>
      { level := .debug, message := "No route matched", fields := [("path", .text path)] }]

end Matcher
end Routing
