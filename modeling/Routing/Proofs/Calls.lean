import Routing.Proofs.ResourceRegistration

/-! The calls that operations on a router come down to: registrations of single routes, further globals,
and changes of routes at their positions. -/
namespace Routing

/-- The smallest calls of a run. -/
inductive Call
  | add (uri : String) (mask : MethodMask) (name : Option String)
  | addGlobals (pairs : List (String × String))
  /-- A change to the route at a position. -/
  | amend (position : Nat) (change : RouteChange)

namespace Call

def run : Call → Router → Except Error Unit × Router
  | add uri mask name, r => r.add uri mask name
  | addGlobals pairs, r => (.ok (), r.addGlobals pairs)
  | amend position change, r => r.modifyAt position change.apply

def isAdd : Call → Bool
  | add .. => true
  | addGlobals _ | amend .. => false

/-- The calls that register a route, and then give it patterns and defaults at its position. -/
def registration (uri : String) (mask : MethodMask) (name : Option String)
    (patterns defaults : List (String × String)) (position : Nat) : List Call :=
  add uri mask name :: (patterns.map fun p => amend position (.specify p.1 p.2)) ++
    [amend position (.addParameters defaults)]

/-- Those of the calls that are made when the first failure ends them. -/
def made : List Call → Router → List Call
  | [], _ => []
  | call :: calls, r =>
    call :: match call.run r with
      | (.ok (), r') => made calls r'
      | (.error _, _) => []

end Call

namespace Router

/-- Makes calls one after the other, up to the first that fails. -/
def perform (r : Router) : List Call → Except Error Unit × Router
  | [] => (.ok (), r)
  | call :: calls =>
    match call.run r with
    | (.ok (), r') => r'.perform calls
    | (.error e, r') => (.error e, r')

/-- The router after calls, whether they succeed or fail. -/
def afterCalls (r : Router) (calls : List Call) : Router :=
  calls.foldl (fun r call => (call.run r).2) r

/-- The calls for routes that are asked for one after the other, the first of them at a position. -/
def layoutCalls (r : Router) (position : Nat) (layout : List PlannedRoute) : List Call :=
  (layout.zipIdx position).flatMap fun (planned, position) =>
    Call.registration (r.decorate planned.path) planned.method planned.name planned.patterns
      planned.defaults position

end Router

namespace Operation

/-- The calls of an operation, up to its end if none of them fails. -/
def script : Operation → Router → List Call
  | add uri mask name, _ => [.add uri mask name]
  | addDecorated uri mask name, r => [.add (r.decorate uri) mask name]
  | root, r => [.add r.config.pathPrefix .get (some "root")]
  | addGlobals pairs, _ => [.addGlobals pairs]
  | register resource, r => r.layoutCalls r.routes.size resource.layout
  | amend name change, r => (r.names[name]?.map fun position => .amend position change).toList

def calls : List Operation → Router → List Call
  | [], _ => []
  | op :: ops, r => Call.made (op.script r) r ++ calls ops (op.run r).2

end Operation

namespace Router

theorem afterCalls_append (r : Router) (calls more : List Call) :
    r.afterCalls (calls ++ more) = (r.afterCalls calls).afterCalls more :=
  List.foldl_append

theorem perform_append (r : Router) (calls more : List Call) :
    r.perform (calls ++ more) =
      match r.perform calls with
      | (.ok (), r') => r'.perform more
      | (.error e, r') => (.error e, r') := by
  induction calls generalizing r with
  | nil => rfl
  | cons call calls ih =>
    rw [List.cons_append, perform, perform]
    split
    · exact ih _
    · rfl

theorem afterCalls_made (r : Router) (calls : List Call) :
    r.afterCalls (Call.made calls r) = (r.perform calls).2 := by
  induction calls generalizing r with
  | nil => rfl
  | cons call calls ih =>
    rw [Call.made, perform, afterCalls, List.foldl_cons]
    generalize call.run r = answer
    obtain ⟨result, r'⟩ := answer
    cases result with
    | ok u => exact ih r'
    | error e => rfl

theorem made_of_ok {r : Router} {calls : List Call} (h : (r.perform calls).1 = .ok ()) :
    Call.made calls r = calls := by
  induction calls generalizing r with
  | nil => rfl
  | cons call calls ih =>
    rw [perform] at h
    rw [Call.made]
    generalize call.run r = answer at h ⊢
    obtain ⟨result, r'⟩ := answer
    cases result with
    | ok u => exact congrArg (call :: ·) (ih h)
    | error e => cases h

/-- The number that is the name of the next route without one. -/
def freeNumber (r : Router) : Nat := freeIndex r.names r.names.size r.nextIndex

theorem freeNumber_fresh (r : Router) : toString r.freeNumber ∉ r.names :=
  freeIndex_fresh r.names r.nextIndex

/-- The name under which a registration enters its route. -/
def nameFor (r : Router) (asked : Option String) : String := asked.getD (toString r.freeNumber)

/-- The counter after a registration. -/
def counterAfter (r : Router) (asked : Option String) : Nat :=
  if asked.isSome then r.nextIndex else r.freeNumber + 1

/-- A registration fails if its name is not free, and a number always is. -/
theorem add_eq (r : Router) (uri : String) (mask : MethodMask) (asked : Option String) :
    r.add uri mask asked =
      if r.nameFor asked ∈ r.names then (.error (.duplicateRoute (r.nameFor asked)), r)
      else { r with nextIndex := r.counterAfter asked }.addNamed uri mask (r.nameFor asked) := by
  cases asked with
  | some name =>
    simp only [add, Std.TreeMap.contains_iff_mem]
    rfl
  | none => exact (if_neg r.freeNumber_fresh).symm

theorem addNamed_cases (r : Router) (uri : String) (mask : MethodMask) (name : String) :
    (∃ e, Route.parse r.config.defaultPattern uri (some mask) = .error e ∧
      r.addNamed uri mask name = (.error e, r)) ∨
    ∃ parsed, Route.parse r.config.defaultPattern uri (some mask) = .ok parsed ∧
      r.addNamed uri mask name = (.ok (), r.enter parsed name) := by
  unfold addNamed
  cases Route.parse r.config.defaultPattern uri (some mask) with
  | error e => exact .inl ⟨e, rfl, rfl⟩
  | ok parsed => exact .inr ⟨parsed, rfl, rfl⟩

theorem size_modifyAt (r : Router) (position : Nat) (f : Route → Except Error Route) :
    (r.modifyAt position f).2.routes.size = r.routes.size := by
  unfold modifyAt
  split
  · exact Array.size_setIfInBounds
  · rfl
  · rfl

theorem size_run {r r' : Router} {call : Call} (h : call.run r = (.ok (), r')) :
    r'.routes.size = r.routes.size + if call.isAdd then 1 else 0 := by
  cases call with
  | add uri mask name =>
    obtain ⟨_, _, -, -, hroutes, -⟩ := (Extended.refl r).add h
    rw [hroutes, Array.size_push]
    rfl
  | addGlobals pairs =>
    cases h
    rfl
  | amend position change =>
    rw [← r.size_modifyAt position change.apply]
    exact congrArg (·.2.routes.size) h.symm

/-- Every call for a route that succeeds adds one. -/
theorem size_of_perform {r r' : Router} {calls : List Call} (h : r.perform calls = (.ok (), r')) :
    r'.routes.size = r.routes.size + calls.countP Call.isAdd := by
  induction calls generalizing r with
  | nil =>
    cases h
    rfl
  | cons call calls ih =>
    rw [perform] at h
    split at h
    · next next hrun =>
      rw [ih h, size_run hrun, List.countP_cons]
      omega
    · cases h

theorem countP_registration (uri : String) (mask : MethodMask) (name : Option String)
    (patterns defaults : List (String × String)) (position : Nat) :
    (Call.registration uri mask name patterns defaults position).countP Call.isAdd = 1 := by
  unfold Call.registration
  rw [List.countP_append, List.countP_cons, List.countP_map]
  simp [Function.comp_def, Call.isAdd]

end Router

namespace Registration

variable {ε δ α β : Type}

/-- The computation does to the router what the calls do, and fails where one of them does. -/
def Performs (x : Registration ε α) (s : Session) (calls : List Call) : Prop :=
  match x s with
  | .ok _ s' => s.router.perform calls = (.ok (), s'.router)
  | .error _ s' => ∃ e, s.router.perform calls = (.error e, s'.router)

theorem Performs.of_ok {x : Registration ε α} {s s' : Session} {calls : List Call} {a : α}
    (h : x.Performs s calls) (hx : x s = .ok a s') : s.router.perform calls = (.ok (), s'.router) := by
  unfold Performs at h
  rw [hx] at h
  exact h

theorem Performs.pure (a : α) (s : Session) : (Pure.pure a : Registration ε α).Performs s [] := rfl

theorem Performs.report (event : Event) (s : Session) :
    (report event : Registration ε Unit).Performs s [] := rfl

theorem Performs.bind {x : Registration ε α} {f : α → Registration ε β} {s : Session}
    {calls more : List Call} (hx : x.Performs s calls)
    (hf : ∀ a t, x s = .ok a t → (f a).Performs t more) : (x >>= f).Performs s (calls ++ more) := by
  unfold Performs at hx ⊢
  rw [Router.perform_append]
  simp only [Bind.bind, EStateM.bind]
  cases hrun : x s with
  | ok a t =>
    have hnext := hf a t hrun
    rw [hrun] at hx
    rw [hx]
    exact hnext
  | error e t =>
    rw [hrun] at hx
    obtain ⟨e', hx⟩ := hx
    exact ⟨e', by rw [hx]⟩

theorem Performs.mapError {x : Registration ε α} {s : Session} {calls : List Call} (f : ε → δ)
    (h : x.Performs s calls) : (x.mapError f).Performs s calls := by
  unfold Performs Registration.mapError at *
  cases hx : x s with
  | ok a t =>
    rw [hx] at h
    exact h
  | error e t =>
    rw [hx] at h
    exact h

theorem Performs.enter {operation : Router → Except Error Unit × Router} {s : Session} {call : Call}
    (h : operation s.router = call.run s.router) : (enter operation).Performs s [call] := by
  unfold Performs Registration.enter
  rw [h, Router.perform]
  generalize call.run s.router = answer
  obtain ⟨result, router⟩ := answer
  cases result with
  | ok u => rfl
  | error e => exact ⟨e, rfl⟩

theorem Performs.configureLast (change : RouteChange) (s : Session) :
    (configureLast change.apply).Performs s [.amend (s.router.routes.size - 1) change] := by
  unfold Performs Registration.configureLast
  rw [Router.perform, Call.run]
  generalize s.router.modifyAt (s.router.routes.size - 1) change.apply = answer
  obtain ⟨result, router⟩ := answer
  cases result with
  | ok u => rfl
  | error e => exact ⟨e, rfl⟩

theorem Performs.amendLast (defaults : List (String × String)) (s : Session) :
    (amendLast (·.addParameters defaults) : Registration ε Unit).Performs s
      [.amend (s.router.routes.size - 1) (.addParameters defaults)] := by
  have hok : (s.router.modifyAt (s.router.routes.size - 1)
      (RouteChange.addParameters defaults).apply).1 = .ok () := by
    unfold Router.modifyAt
    cases s.router.routeAt? (s.router.routes.size - 1) <;> rfl
  change Router.perform _ _ = (.ok (), (s.router.modifyAt _ (RouteChange.addParameters defaults).apply).2)
  rw [Router.perform, Call.run]
  generalize s.router.modifyAt (s.router.routes.size - 1) (RouteChange.addParameters defaults).apply =
    answer at hok
  obtain ⟨result, router⟩ := answer
  cases hok
  rfl

/-- A loop that gives patterns to the last route. -/
theorem Performs.forIn_specify {step : String × String → Registration ε Unit}
    (hstep : ∀ p s, (step p).Performs s [.amend (s.router.routes.size - 1) (.specify p.1 p.2)])
    (patterns : List (String × String)) (s : Session) :
    Performs (forIn patterns PUnit.unit fun p _ => do
      step p
      Pure.pure (ForInStep.yield PUnit.unit)) s
        (patterns.map fun p => .amend (s.router.routes.size - 1) (.specify p.1 p.2)) := by
  induction patterns generalizing s with
  | nil => exact .pure _ s
  | cons p patterns ih =>
    rw [List.forIn_cons, List.map_cons]
    refine Performs.bind (Performs.bind (hstep p s) fun _ t _ => .pure _ t) fun a t hrun => ?_
    obtain ⟨_, t', hhere, hyield⟩ := bind_eq_ok.mp hrun
    cases hyield
    -- The next pattern is for the same route.
    have hsize : t.router.routes.size = s.router.routes.size :=
      Router.size_of_perform ((hstep p s).of_ok hhere)
    rw [← hsize]
    exact ih t

/-- A route that is entered, and then gets patterns and defaults. -/
theorem Performs.registration {first : Registration ε Unit} {step : String × String → Registration ε Unit}
    {s : Session} {uri : String} {mask : MethodMask} {name : Option String}
    (hfirst : first.Performs s [.add uri mask name])
    (hstep : ∀ p s, (step p).Performs s [.amend (s.router.routes.size - 1) (.specify p.1 p.2)])
    (patterns defaults : List (String × String)) :
    Performs (do
      first
      for p in patterns do
        step p
      Registration.amendLast (·.addParameters defaults)) s
        (Call.registration uri mask name patterns defaults s.router.routes.size) := by
  have hcalls : Call.registration uri mask name patterns defaults s.router.routes.size =
      [.add uri mask name] ++ ((patterns.map fun p =>
        .amend s.router.routes.size (.specify p.1 p.2)) ++
          [.amend s.router.routes.size (.addParameters defaults)]) := rfl
  rw [hcalls]
  refine hfirst.bind fun _ t hrun => ?_
  have hsize : t.router.routes.size = s.router.routes.size + 1 :=
    Router.size_of_perform (hfirst.of_ok hrun)
  have hlast : s.router.routes.size = t.router.routes.size - 1 := by omega
  rw [hlast]
  have hpatterns := Performs.forIn_specify hstep patterns t
  refine hpatterns.bind fun _ t' hrun' => ?_
  have hsize' : t'.router.routes.size = t.router.routes.size := by
    rw [Router.size_of_perform (hpatterns.of_ok hrun'), List.countP_map]
    simp [Function.comp_def, Call.isAdd]
  rw [← hsize']
  exact .amendLast defaults t'

end Registration

namespace Router

theorem decorate_of_config {r r' : Router} (h : r'.config = r.config) (uri : String) :
    r'.decorate uri = r.decorate uri := by
  unfold decorate
  rw [h]

theorem layoutCalls_cons (r : Router) (position : Nat) (planned : PlannedRoute)
    (layout : List PlannedRoute) :
    r.layoutCalls position (planned :: layout) =
      Call.registration (r.decorate planned.path) planned.method planned.name planned.patterns
        planned.defaults position ++ r.layoutCalls (position + 1) layout := by
  unfold layoutCalls
  rw [List.zipIdx_cons, List.flatMap_cons]

theorem layoutCalls_append (r : Router) (position : Nat) (layout more : List PlannedRoute) :
    r.layoutCalls position (layout ++ more) =
      r.layoutCalls position layout ++ r.layoutCalls (position + layout.length) more := by
  unfold layoutCalls
  rw [List.zipIdx_append, List.flatMap_append]

theorem countP_layoutCalls (r : Router) (position : Nat) (layout : List PlannedRoute) :
    (r.layoutCalls position layout).countP Call.isAdd = layout.length := by
  induction layout generalizing position with
  | nil => rfl
  | cons planned layout ih =>
    rw [layoutCalls_cons, List.countP_append, countP_registration, ih, List.length_cons, Nat.add_comm]

theorem config_addNamed (r : Router) (uri : String) (mask : MethodMask) (name : String) :
    (r.addNamed uri mask name).2.config = r.config := by
  unfold addNamed
  split <;> rfl

theorem config_run (call : Call) (r : Router) : (call.run r).2.config = r.config := by
  cases call with
  | add uri mask name =>
    cases name with
    | none => exact config_addNamed _ uri mask _
    | some name =>
      simp only [Call.run, add]
      split_ifs
      · rfl
      · exact config_addNamed r uri mask name
  | addGlobals pairs => rfl
  | amend position change =>
    simp only [Call.run]
    unfold modifyAt
    split <;> rfl

theorem config_of_perform {r r' : Router} {calls : List Call} {result : Except Error Unit}
    (h : r.perform calls = (result, r')) : r'.config = r.config := by
  induction calls generalizing r with
  | nil =>
    cases h
    rfl
  | cons call calls ih =>
    have hcall := config_run call r
    rw [perform] at h
    split at h
    · next next hrun =>
      rw [hrun] at hcall
      exact (ih h).trans hcall
    · next e next hrun =>
      rw [hrun] at hcall
      cases h
      exact hcall

end Router

open Registration Router

theorem PlannedRoute.register_performs (planned : PlannedRoute) (s : Session) :
    planned.register.Performs s (Call.registration (s.router.decorate planned.path) planned.method
      planned.name planned.patterns planned.defaults s.router.routes.size) := by
  have hfirst : (Registration.enter (·.addDecorated planned.path planned.method planned.name)).Performs s
      [.add (s.router.decorate planned.path) planned.method planned.name] := .enter rfl
  exact hfirst.registration (fun p t => .configureLast (.specify p.1 p.2) t) planned.patterns
    planned.defaults

theorem PlanStep.forM_run_performs (steps : List PlanStep) {r : Router} {s : Session}
    (h : s.router.config = r.config) :
    (steps.forM run).Performs s
      (r.layoutCalls s.router.routes.size (steps.filterMap PlanStep.planned?)) := by
  induction steps generalizing s with
  | nil => exact .pure _ s
  | cons step steps ih =>
    cases step with
    | route planned =>
      have hfirst := planned.register_performs s
      change Performs (planned.register >>= fun _ => steps.forM run) s
        (r.layoutCalls _ (planned :: steps.filterMap PlanStep.planned?))
      rw [layoutCalls_cons, ← decorate_of_config h]
      refine hfirst.bind fun _ t hrun => ?_
      have hcalls := hfirst.of_ok hrun
      have hconfig : t.router.config = s.router.config := config_of_perform hcalls
      have hsize : t.router.routes.size = s.router.routes.size + 1 := by
        rw [size_of_perform hcalls, countP_registration]
      rw [← hsize]
      exact ih (hconfig.trans h)
    | finished resource routes depth =>
      exact Performs.bind (.report _ s) fun _ t hrun => by
        cases hrun
        exact ih h

theorem Resource.register_performs (resource : Resource) (s : Session) :
    resource.register.Performs s (s.router.layoutCalls s.router.routes.size resource.layout) := by
  have hsteps := PlanStep.forM_run_performs (resource.plan {}) (s := s) rfl
  rw [plan_eq_layout] at hsteps
  rw [← List.append_nil (s.router.layoutCalls _ _)]
  exact hsteps.bind fun _ t _ => .pure _ t

namespace Operation

/-- An operation is its calls, up to the first that fails; and if it succeeds, all of them do. -/
theorem run_eq (op : Operation) (r : Router) :
    (op.run r).2 = (r.perform (op.script r)).2 ∧
      ((op.run r).1 = .ok () → (r.perform (op.script r)).1 = .ok ()) := by
  have hone {call : Call} (h : op.run r = call.run r) :
      (op.run r).2 = (r.perform [call]).2 ∧ ((op.run r).1 = .ok () → (r.perform [call]).1 = .ok ()) := by
    have hcall : r.perform [call] = call.run r := by
      rw [perform]
      generalize call.run r = answer
      obtain ⟨result, r'⟩ := answer
      cases result <;> rfl
    rw [hcall, h]
    exact ⟨rfl, id⟩
  cases op with
  | add | addDecorated | root | addGlobals => exact hone rfl
  | register resource =>
    have hperforms := resource.register_performs { router := r }
    simp only [Operation.run, Registration.run, script]
    unfold Performs at hperforms
    cases hrun : resource.register { router := r } with
    | ok count session =>
      rw [hrun] at hperforms
      exact ⟨(congrArg Prod.snd hperforms).symm, fun _ => congrArg Prod.fst hperforms⟩
    | error e session =>
      rw [hrun] at hperforms
      obtain ⟨e', hperforms⟩ := hperforms
      refine ⟨(congrArg Prod.snd hperforms).symm, fun hok => ?_⟩
      cases hok
  | amend name change =>
    cases hposition : r.names[name]? with
    | none =>
      have hscript : (amend name change).script r = [] := by
        rw [script, hposition]
        rfl
      have hrun : (amend name change).run r = (.error (.routeNotFound name), r) := by
        simp only [Operation.run, modifyRoute, hposition]
      rw [hscript, hrun]
      exact ⟨rfl, fun _ => rfl⟩
    | some position =>
      have hscript : (amend name change).script r = [.amend position change] := by
        rw [script, hposition]
        rfl
      have hrun : (amend name change).run r = (Call.amend position change).run r := by
        simp only [Operation.run, modifyRoute, hposition]
        rfl
      rw [hscript]
      exact hone hrun

/-- A run of operations is a run of their calls. -/
theorem afterCalls_calls (ops : List Operation) (r : Router) :
    r.afterCalls (calls ops r) = ops.foldl (fun r op => (op.run r).2) r := by
  induction ops generalizing r with
  | nil => rfl
  | cons op ops ih =>
    rw [calls, afterCalls_append, afterCalls_made, ← (op.run_eq r).1, List.foldl_cons]
    exact ih _

end Operation

namespace Router

/-- What a call does can be done by an operation. -/
theorem Reachable.call {r : Router} (h : r.Reachable) (call : Call) : (call.run r).2.Reachable := by
  cases call with
  | add uri mask name => exact h.operate (.add uri mask name)
  | addGlobals pairs => exact h.operate (.addGlobals pairs)
  | amend position change =>
    cases hfound : r.routeAt? position with
    | none =>
      have hrun : (Call.amend position change).run r = (.ok (), r) := by
        simp only [Call.run, modifyAt, hfound]
        rfl
      rw [hrun]
      exact h
    | some route =>
      -- The route at the position has a name, under which the change can be made.
      have hname := ((consistent_of_reachable h).names route.name position).mpr ⟨route, hfound, rfl⟩
      have hrun : (Operation.amend route.name change).run r = (Call.amend position change).run r := by
        simp only [Operation.run, modifyRoute, hname]
        rfl
      rw [← hrun]
      exact h.operate _

theorem Reachable.afterCalls {r : Router} (h : r.Reachable) (calls : List Call) :
    (r.afterCalls calls).Reachable := by
  induction calls generalizing r with
  | nil => exact h
  | cons call calls ih => exact ih (h.call call)

end Router

end Routing
