import Routing.Router.Registry

/-! Registration of several routes in a row: what was entered before a failure stays. -/
namespace Routing

/-- A router that routes are being entered into, and the events of doing so, the oldest first. -/
structure Session where
  router : Router
  events : List Event := []

/-- A computation that enters routes and may fail. -/
abbrev Registration (ε : Type) := EStateM ε Session

namespace Registration

variable {ε : Type}

def report (event : Event) : Registration ε Unit :=
  modify fun s => { s with events := s.events ++ [event] }

def enter (operation : Router → Except Error Unit × Router) : Registration Error Unit := fun s =>
  match operation s.router with
  | (.ok (), router) => .ok () ⟨router, s.events ++ Router.additionEvents s.router router⟩
  | (.error e, router) => .error e { s with router }

/-- Changes the route that was entered last. -/
def configureLast (f : Route → Except Error Route) : Registration Error Unit := fun s =>
  match s.router.modifyAt (s.router.routes.size - 1) f with
  | (.ok (), router) => .ok () { s with router }
  | (.error e, router) => .error e { s with router }

def amendLast (f : Route → Route) : Registration ε Unit := fun s =>
  .ok () { s with router := (s.router.modifyAt (s.router.routes.size - 1) fun route => .ok (f route)).2 }

def mapError {δ α : Type} (f : ε → δ) (x : Registration ε α) : Registration δ α := fun s =>
  match x s with
  | .ok a s => .ok a s
  | .error e s => .error (f e) s

def run {α : Type} (x : Registration ε α) (router : Router) : Except ε α × Session :=
  match x { router } with
  | .ok a s => (.ok a, s)
  | .error e s => (.error e, s)

end Registration
end Routing
