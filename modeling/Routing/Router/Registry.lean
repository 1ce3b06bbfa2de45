import Routing.Config
import Routing.Route

/-! The registry of routes: every route has a name of its own, and keeps its position. -/
namespace Routing

structure Router where
  config : Config := {}
  /-- The routes in the order of their registration. -/
  routes : Array Route := #[]
  /-- The position of each name. -/
  names : Std.TreeMap String Nat := {}
  /-- The positions of the static routes by their path, the earliest first. -/
  staticIndex : Std.TreeMap String (List Nat) := {}
  /-- Defaults that every route registered from now on begins with. -/
  globals : Values := {}
  /-- The least number that has not been tried as an automatic name. It has no bound here; a counter
  of 64 bits would start again from 0 after `2 ^ 64` routes without a name. -/
  nextIndex : Nat := 0

namespace Router

def ofConfig (config : Config) : Router := { config }

/-- The first number from `index` on that is no name. Every number skipped is a name, so a fuel of
as many steps as there are names is enough. -/
def freeIndex (names : Std.TreeMap String Nat) : Nat → Nat → Nat
  | 0, index => index
  | fuel + 1, index =>
    if names.contains (toString index) then freeIndex names fuel (index + 1) else index

/-- Enters a route under a name that is free. The globals come before all other defaults. -/
def enter (r : Router) (route : Route) (name : String) : Router :=
  let route := { route with name }.addParameters r.globals.toList
  let position := r.routes.size
  { r with
    routes := r.routes.push route
    names := r.names.insert name position
    staticIndex :=
      if route.isStatic then
        r.staticIndex.insert route.path ((r.staticIndex.getD route.path []) ++ [position])
      else r.staticIndex }

/-- Reads the template and enters the route. A failure leaves the router as it is. -/
def addNamed (r : Router) (uri : String) (mask : MethodMask) (name : String) :
    Except Error Unit × Router :=
  match Route.parse r.config.defaultPattern uri (some mask) with
  | .ok route => (.ok (), r.enter route name)
  | .error e => (.error e, r)

/-- Registers a route exactly as given. Without a name it gets the next free number. -/
def add (r : Router) (uri : String) (mask : MethodMask) (name : Option String) :
    Except Error Unit × Router :=
  match name with
  | some name =>
    if r.names.contains name then (.error (.duplicateRoute name), r) else r.addNamed uri mask name
  | none =>
    let index := freeIndex r.names r.names.size r.nextIndex
    { r with nextIndex := index + 1 }.addNamed uri mask (toString index)

def decorate (r : Router) (uri : String) : String :=
  r.config.pathPrefix ++ uri ++ r.config.pathSuffix

def addDecorated (r : Router) (uri : String) (mask : MethodMask) (name : Option String) :
    Except Error Unit × Router :=
  r.add (r.decorate uri) mask name

/-- Registers the route `root` for GET at exactly the prefix. -/
def addRoot (r : Router) : Except Error Unit × Router :=
  r.add r.config.pathPrefix .get (some "root")

/-- Adds defaults for the routes registered from now on; the last value of a key counts. -/
def addGlobals (r : Router) (pairs : List (String × String)) : Router :=
  { r with globals := pairs.foldl (fun values (key, value) => values.insert key value) r.globals }

def routeAt? (r : Router) (position : Nat) : Option Route := r.routes[position]?

def getRoute (r : Router) (name : String) : Except Error Route :=
  match r.names[name]?.bind r.routeAt? with
  | some route => .ok route
  | none => .error (.routeNotFound name)

/-- Changes the route at a position. A failure leaves the router as it is. -/
def modifyAt (r : Router) (position : Nat) (f : Route → Except Error Route) :
    Except Error Unit × Router :=
  match (r.routeAt? position).map f with
  | some (.ok route) => (.ok (), { r with routes := r.routes.setIfInBounds position route })
  | some (.error e) => (.error e, r)
  | none => (.ok (), r)

def modifyRoute (r : Router) (name : String) (f : Route → Except Error Route) :
    Except Error Unit × Router :=
  match r.names[name]? with
  | some position => r.modifyAt position f
  | none => (.error (.routeNotFound name), r)

/-- The static routes at a path, in the order of their registration. -/
def staticRoutesAt (r : Router) (uri : String) : List Route :=
  (r.staticIndex.getD uri []).filterMap r.routeAt?

def getStatic (r : Router) (uri : String) : Except Error Route :=
  match r.staticRoutesAt uri with
  | route :: _ => .ok route
  | [] => .error (.staticRouteNotFound uri)

def dynamicRoutes (r : Router) : List (Nat × Route) :=
  (r.routes.toList.zipIdx.map fun (route, i) => (i, route)).filter (!·.2.isStatic)

end Router

def Route.registeredEvent (r : Route) : Event where
  level := .debug
  message := "Registered route"
  fields := [("route_name", .text r.name), ("method", .text ((r.method.getD .any).display)),
    ("path", .text r.path), ("is_static", .flag r.isStatic)]

namespace Router

/-- Reports the routes that `after` holds beyond those of `before`. -/
def additionEvents (before after : Router) : List Event :=
  (after.routes.toList.drop before.routes.size).flatMap fun r => [r.parsedEvent, r.registeredEvent]

def dumpEvents (r : Router) : List Event :=
  { level := .info, message := "Routing table",
    fields := [("routes_count", .number r.routes.size), ("prefix", .text r.config.pathPrefix),
      ("suffix", .text r.config.pathSuffix)] } ::
  r.routes.toList.map fun route =>
    { level := .info, message := "Route",
      fields := [("route_name", .text route.name), ("method", .text (route.method.getD .any).display),
        ("path", .text route.path)] }

end Router
end Routing
