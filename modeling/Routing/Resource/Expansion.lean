import Routing.Registration
import Routing.Resource.Builder

/-! The routes of a resource: a plan in the order of registration, parents before children, and its
execution on a router. -/
namespace Routing

/-- What the resources around a resource contribute to its routes. -/
structure Scope where
  path : String := ""
  name : String := ""
  /-- The patterns of identifiers, the outermost first. -/
  patterns : List (String × String) := []
  depth : Nat := 0
deriving DecidableEq, Repr

structure PlannedRoute where
  path : String
  method : MethodMask
  /-- Without a name the router assigns one. -/
  name : Option String
  /-- Patterns for the parameters of those names, if the path has them. -/
  patterns : List (String × String)
  defaults : List (String × String)
deriving DecidableEq, Repr

inductive PlanStep
  | route (planned : PlannedRoute)
  /-- The own routes of a resource are complete. -/
  | finished (resource : String) (routes depth : Nat)
deriving DecidableEq, Repr

namespace Resource

def ownPatterns (r : Resource) : List (String × String) :=
  match r.idPattern with
  | some pattern => [(r.idToken, pattern)]
  | none => []

/-- The step that the resource adds to the paths of those nested in it. -/
def pathStep (r : Resource) : String :=
  match r.plural with
  | some plural => plural ++ "/" ++ (Segment.param r.idToken).display ++ "/"
  | none => r.singular ++ "/"

def innerScope (scope : Scope) (r : Resource) : Scope where
  path := scope.path ++ r.pathStep
  name := scope.name ++ r.singular ++ "_"
  patterns := scope.patterns ++ r.ownPatterns
  depth := scope.depth + 1

/-- The routes of a group. The first bare action has the name of the group, and `taken` tells
whether it was seen; the other bare ones have none. -/
def groupRoutes (r : Resource) (patterns : List (String × String)) (basePath baseName : String)
    (taken : Bool) : Actions → List PlannedRoute
  | [] => []
  | (name, action) :: rest =>
    { path := if action.bare then basePath else basePath ++ "/" ++ name
      method := action.method
      name :=
        if !action.bare then some (name ++ "_" ++ baseName)
        else if taken then none else some baseName
      patterns
      defaults := r.parameters ++ [("action", name)] } ::
    groupRoutes r patterns basePath baseName (taken || action.bare) rest

/-- The routes of the resource itself: those on one of many, then those on the whole. -/
def ownRoutes (scope : Scope) (r : Resource) : List PlannedRoute :=
  let patterns := scope.patterns ++ r.ownPatterns
  let members := match r.plural with
    | none => []
    | some plural =>
      let outer : Scope := if r.shallow then {} else scope
      r.groupRoutes patterns (outer.path ++ plural ++ "/" ++ (Segment.param r.idToken).display)
        (outer.name ++ r.singular) false r.member
  let root := r.plural.getD r.singular
  members ++ r.groupRoutes patterns (scope.path ++ root) (scope.name ++ root) false r.collection

mutual

/-- The plan of a resource and of all resources nested in it. -/
def plan (scope : Scope) : Resource → List PlanStep
  | r@⟨_, _, _, _, _, _, _, children⟩ =>
    (r.ownRoutes scope).map .route ++
      .finished r.singular (r.ownRoutes scope).length scope.depth ::
      planAll (innerScope scope r) children

def planAll (scope : Scope) : List Resource → List PlanStep
  | [] => []
  | r :: rest => plan scope r ++ planAll scope rest

end

/-- Reports a resource whose own routes are complete. -/
def registeredEvent (resource : String) (routes depth : Nat) : Event where
  level := .debug
  message := "Registered resource"
  fields := [("resource", .text resource), ("routes", .number routes), ("depth", .number depth)]

end Resource

/-- Enters a planned route, and then gives it its patterns and defaults. -/
def PlannedRoute.register (planned : PlannedRoute) : Registration Error Unit := do
  Registration.enter (·.addDecorated planned.path planned.method planned.name)
  for (name, pattern) in planned.patterns do
    Registration.configureLast (·.specify name pattern)
  Registration.amendLast (·.addParameters planned.defaults)

def PlanStep.run : PlanStep → Registration Error Unit
  | route planned => planned.register
  | finished resource routes depth =>
    Registration.report (Resource.registeredEvent resource routes depth)

def PlanStep.isRoute : PlanStep → Bool
  | route _ => true
  | finished .. => false

/-- Enters the routes of the resource and of all nested ones; the result is their number. -/
def Resource.register (r : Resource) : Registration Error Nat := do
  let steps := r.plan {}
  steps.forM PlanStep.run
  return steps.countP PlanStep.isRoute

end Routing
