import Mathlib.Data.List.Nodup
import Mathlib.Data.List.Perm.Subperm
import Mathlib.Logic.Relation
import Mathlib.Tactic.SplitIfs
import Routing.Resource.Expansion

/-! Operations on a router, the routers that sequences of them lead to, and the moves that every
operation consists of. -/
namespace Routing

inductive RouteChange
  | specify (param pattern : String)
  | set (key value : String)
  | addParameters (pairs : List (String × String))
  | setMethod (bits : Nat)

def RouteChange.apply : RouteChange → Route → Except Error Route
  | specify param pattern, r => r.specify param pattern
  | set key value, r => .ok (r.set key value)
  | addParameters pairs, r => .ok (r.addParameters pairs)
  | setMethod bits, r => r.setMethod bits

/-- A call on a router. The calls named for verbs are decorated registrations with the mask of the
verb. -/
inductive Operation
  | add (uri : String) (mask : MethodMask) (name : Option String)
  | addDecorated (uri : String) (mask : MethodMask) (name : Option String)
  | root
  | addGlobals (pairs : List (String × String))
  | register (resource : Resource)
  /-- A change to the route of the given name. -/
  | amend (name : String) (change : RouteChange)

def Operation.run : Operation → Router → Except Error Unit × Router
  | add uri mask name, r => r.add uri mask name
  | addDecorated uri mask name, r => r.addDecorated uri mask name
  | root, r => r.addRoot
  | addGlobals pairs, r => (.ok (), r.addGlobals pairs)
  | register resource, r =>
    let (result, session) := resource.register.run r
    (result.map fun _ => (), session.router)
  | amend name change, r => r.modifyRoute name change.apply

namespace Router

/-- The routers that operations lead to, whether they succeed or fail. -/
inductive Reachable : Router → Prop
  | new (config : Config) : Reachable (ofConfig config)
  | operate {r : Router} (h : Reachable r) (op : Operation) : Reachable (op.run r).2

/-- The smallest changes to a router. -/
inductive Move : Router → Router → Prop
  | settings (r : Router) (globals : Values) (nextIndex : Nat) :
    Move r { r with globals, nextIndex }
  | enter {r : Router} {uri name : String} {mask : MethodMask} {route : Route}
    (parsed : Route.parse r.config.defaultPattern uri (some mask) = .ok route)
    (fresh : name ∉ r.names) : Move r (r.enter route name)
  | amend {r : Router} {position : Nat} {route route' : Route} (change : RouteChange)
    (found : r.routeAt? position = some route) (changed : change.apply route = .ok route') :
    Move r { r with routes := r.routes.setIfInBounds position route' }

abbrev Moves : Router → Router → Prop := Relation.ReflTransGen Move

theorem freeIndex_spec (names : Std.TreeMap String Nat) (fuel index : Nat) :
    index ≤ freeIndex names fuel index ∧
      (∀ k, index ≤ k → k < freeIndex names fuel index → toString k ∈ names) ∧
      (toString (freeIndex names fuel index) ∈ names → freeIndex names fuel index = index + fuel) := by
  induction fuel generalizing index with
  | zero => exact ⟨Nat.le_refl _, fun k hk hlt => absurd hlt (Nat.not_lt.mpr hk), fun _ => rfl⟩
  | succ fuel ih =>
    simp only [freeIndex, Std.TreeMap.contains_iff_mem]
    split_ifs with hm
    · obtain ⟨hle, hall, hend⟩ := ih (index + 1)
      refine ⟨by omega, ?_, fun h => by have := hend h; omega⟩
      intro k hk hlt
      by_cases he : k = index
      · exact he ▸ hm
      · exact hall k (by omega) hlt
    · exact ⟨Nat.le_refl _, fun k hk hlt => absurd hlt (Nat.not_lt.mpr hk), fun h => absurd h hm⟩

theorem toString_nat_injective : Function.Injective (fun n : Nat => toString n) := by
  intro a b h
  have hd : Nat.toDigits 10 a = Nat.toDigits 10 b := by
    simpa only [Nat.toString_eq_repr, Nat.toList_repr] using congrArg String.toList h
  simpa using congrArg (fun digits => Nat.ofDigitChars 10 digits 0) hd

/-- Were the number a name, then so would be more numbers than there are names. -/
theorem freeIndex_fresh (names : Std.TreeMap String Nat) (index : Nat) :
    toString (freeIndex names names.size index) ∉ names := by
  intro hm
  obtain ⟨_, hall, hend⟩ := freeIndex_spec names names.size index
  have he := hend hm
  have hsub : (List.range (names.size + 1)).map (fun k => toString (index + k)) ⊆ names.keys := by
    intro s hs
    obtain ⟨k, hk, rfl⟩ := List.mem_map.mp hs
    rw [List.mem_range] at hk
    rw [Std.TreeMap.mem_keys]
    by_cases hlast : k = names.size
    · rw [hlast, ← he]
      exact hm
    · exact hall (index + k) (by omega) (by omega)
  have hnodup : ((List.range (names.size + 1)).map (fun k => toString (index + k))).Nodup :=
    List.nodup_range.map fun a b h => Nat.add_left_cancel (toString_nat_injective h)
  have hlen := (hnodup.subperm hsub).length_le
  rw [List.length_map, List.length_range, Std.TreeMap.length_keys] at hlen
  omega

theorem addNamed_moves (r : Router) (uri : String) (mask : MethodMask) {name : String}
    (fresh : name ∉ r.names) : Moves r (r.addNamed uri mask name).2 := by
  unfold addNamed
  split
  · next parsed => exact .single (.enter parsed fresh)
  · exact .refl

theorem add_moves (r : Router) (uri : String) (mask : MethodMask) (name : Option String) :
    Moves r (r.add uri mask name).2 := by
  cases name with
  | none =>
    have hfresh := freeIndex_fresh r.names r.nextIndex
    exact .head (.settings r r.globals _) (addNamed_moves _ uri mask hfresh)
  | some name =>
    simp only [add]
    split_ifs with h
    · exact .refl
    · exact addNamed_moves r uri mask (by simpa using h)

theorem modifyAt_moves (r : Router) (position : Nat) (change : RouteChange) :
    Moves r (r.modifyAt position change.apply).2 := by
  unfold modifyAt
  cases hf : r.routeAt? position with
  | none => exact .refl
  | some route =>
    cases hc : change.apply route with
    | error e => simpa [hc] using Relation.ReflTransGen.refl
    | ok route' => simpa [hc] using Relation.ReflTransGen.single (Move.amend change hf hc)

end Router

namespace Registration

variable {ε α β : Type}

/-- The session after a computation, whether it succeeded or not. -/
def after (x : Registration ε α) (s : Session) : Session :=
  match x s with
  | .ok _ s => s
  | .error _ s => s

/-- The computation does nothing to the router but moves. -/
def Moving (x : Registration ε α) : Prop :=
  ∀ s, Router.Moves s.router (x.after s).router

theorem run_router (x : Registration ε α) (router : Router) :
    (x.run router).2.router = (x.after { router }).router := by
  unfold run after
  cases x { router } <;> rfl

theorem Moving.pure (a : α) : Moving (Pure.pure a : Registration ε α) := fun _ => .refl

theorem Moving.bind {x : Registration ε α} {f : α → Registration ε β} (hx : Moving x)
    (hf : ∀ a, Moving (f a)) : Moving (x >>= f) := by
  intro s
  have h := hx s
  simp only [after, Bind.bind, EStateM.bind] at h ⊢
  cases hr : x s with
  | ok a s' =>
    rw [hr] at h
    exact h.trans (hf a s')
  | error e s' =>
    rw [hr] at h
    exact h

theorem Moving.report (event : Event) : Moving (report event : Registration ε Unit) :=
  fun _ => .refl

theorem Moving.enter {operation : Router → Except Error Unit × Router}
    (h : ∀ r, Router.Moves r (operation r).2) : Moving (enter operation) := by
  intro s
  have hs := h s.router
  unfold after Registration.enter
  generalize operation s.router = answer at hs
  obtain ⟨result, router⟩ := answer
  cases result <;> exact hs

theorem Moving.configureLast (change : RouteChange) : Moving (configureLast change.apply) := by
  intro s
  have hs := Router.modifyAt_moves s.router (s.router.routes.size - 1) change
  unfold after Registration.configureLast
  generalize s.router.modifyAt (s.router.routes.size - 1) change.apply = answer at hs
  obtain ⟨result, router⟩ := answer
  cases result <;> exact hs

theorem Moving.forM {l : List α} {f : α → Registration ε PUnit} (h : ∀ a, Moving (f a)) :
    Moving (l.forM f) := by
  induction l with
  | nil => exact Moving.pure _
  | cons a l ih => exact Moving.bind (h a) fun _ => ih

theorem Moving.forIn {l : List α} {f : α → β → Registration ε (ForInStep β)}
    (h : ∀ a b, Moving (f a b)) (b : β) : Moving (ForIn.forIn l b f) := by
  induction l generalizing b with
  | nil => exact Moving.pure _
  | cons a l ih =>
    rw [List.forIn_cons]
    refine Moving.bind (h a b) fun step => ?_
    cases step with
    | done b => exact Moving.pure _
    | yield b => exact ih b

end Registration

theorem PlannedRoute.register_moving (planned : PlannedRoute) : planned.register.Moving := by
  unfold PlannedRoute.register
  refine .bind (.enter fun r => r.add_moves _ _ _) fun _ => .bind (.forIn ?_ _) fun _ => ?_
  · exact fun (name, pattern) _ =>
      .bind (.configureLast (.specify name pattern)) fun _ => .pure _
  · exact fun s => Router.modifyAt_moves _ _ (.addParameters planned.defaults)

theorem Resource.register_moving (r : Resource) : r.register.Moving := by
  refine .bind (.forM fun step => ?_) fun _ => .pure _
  cases step with
  | route planned => exact planned.register_moving
  | finished resource routes depth => exact .report _

namespace Router

/-- Every operation is a sequence of moves. -/
theorem operation_moves (op : Operation) (r : Router) : Moves r (op.run r).2 := by
  cases op with
  | add uri mask name => exact r.add_moves uri mask name
  | addDecorated uri mask name => exact r.add_moves _ mask name
  | root => exact r.add_moves _ _ _
  | addGlobals pairs => exact .single (.settings r _ _)
  | register resource =>
    change Moves r (resource.register.run r).2.router
    rw [Registration.run_router]
    exact resource.register_moving { router := r }
  | amend name change =>
    change Moves r (r.modifyRoute name change.apply).2
    unfold modifyRoute
    cases r.names[name]? with
    | none => exact .refl
    | some position => exact r.modifyAt_moves position change

theorem Moves.keep {P : Router → Prop} (hmove : ∀ r r', Move r r' → P r → P r') {r r' : Router}
    (h : Moves r r') (hr : P r) : P r' := by
  induction h with
  | refl => exact hr
  | tail _ hlast ih => exact hmove _ _ hlast ih

/-- What holds of every new router and is kept by moves holds of every reachable router. -/
theorem Reachable.invariant {P : Router → Prop} {r : Router} (h : Reachable r)
    (hnew : ∀ config, P (ofConfig config)) (hmove : ∀ r r', Move r r' → P r → P r') : P r := by
  induction h with
  | new config => exact hnew config
  | operate _ op ih => exact Moves.keep hmove (operation_moves op _) ih

/-- The router after operations on a new one, in their order. -/
def afterAll (config : Config) (ops : List Operation) : Router :=
  ops.foldl (fun r op => (op.run r).2) (ofConfig config)

theorem Reachable.foldl {r : Router} (h : Reachable r) (ops : List Operation) :
    Reachable (ops.foldl (fun r op => (op.run r).2) r) := by
  induction ops generalizing r with
  | nil => exact h
  | cons op ops ih => exact ih (h.operate op)

theorem reachable_afterAll (config : Config) (ops : List Operation) :
    Reachable (afterAll config ops) :=
  (Reachable.new config).foldl ops

end Router
end Routing
