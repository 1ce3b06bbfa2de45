import Routing.Proofs.Registry
import Routing.Proofs.ResourceLayout

/-! Registering a tree of resources: which routes it adds to a router, and what each of them is. -/
namespace Routing

theorem Router.modifyAt_last {r : Router} {routes : Array Route} {route : Route}
    (h : r.routes = routes.push route) (f : Route → Except Error Route) :
    r.modifyAt (r.routes.size - 1) f = match f route with
      | .ok route' => (.ok (), { r with routes := routes.push route' })
      | .error e => (.error e, r) := by
  have hlast : r.routeAt? (r.routes.size - 1) = some route := by
    unfold routeAt?
    rw [h]
    simp
  have hset (route' : Route) :
      r.routes.setIfInBounds (r.routes.size - 1) route' = routes.push route' := by
    apply Array.ext'
    rw [h]
    simp
  unfold modifyAt
  rw [hlast, Option.map_some]
  cases f route with
  | ok route' =>
    dsimp only
    rw [hset]
  | error e => rfl

namespace Registration

variable {ε α β : Type}

theorem bind_eq_ok {x : Registration ε α} {f : α → Registration ε β} {s s' : Session} {b : β} :
    (x >>= f) s = .ok b s' ↔ ∃ a t, x s = .ok a t ∧ f a t = .ok b s' := by
  simp only [Bind.bind, EStateM.bind]
  cases x s with
  | ok a t => simp
  | error e t => simp

theorem mapError_ok {δ : Type} {f : ε → δ} {x : Registration ε α} {s s' : Session} {a : α}
    (h : x.mapError f s = .ok a s') : x s = .ok a s' := by
  unfold Registration.mapError at h
  split at h
  · next hx =>
    cases h
    exact hx
  · cases h

theorem enter_ok {operation : Router → Except Error Unit × Router} {s s' : Session}
    (h : enter operation s = .ok () s') : operation s.router = (.ok (), s'.router) := by
  unfold enter at h
  split at h
  · next router hs =>
    cases h
    exact hs
  · cases h

/-- A change to the last route leaves everything else as it is. -/
theorem configureLast_ok {f : Route → Except Error Route} {s s' : Session}
    (h : configureLast f s = .ok () s') {routes : Array Route} {route : Route}
    (hs : s.router.routes = routes.push route) :
    ∃ route', f route = .ok route' ∧ s'.router = { s.router with routes := routes.push route' } := by
  unfold configureLast at h
  rw [Router.modifyAt_last hs] at h
  cases hf : f route with
  | error e => simp [hf] at h
  | ok route' =>
    rw [hf] at h
    cases h
    exact ⟨route', rfl, rfl⟩

theorem amendLast_ok {f : Route → Route} {s s' : Session}
    (h : (amendLast f : Registration ε Unit) s = .ok () s') {routes : Array Route} {route : Route}
    (hs : s.router.routes = routes.push route) :
    s'.router = { s.router with routes := routes.push (f route) } := by
  unfold amendLast at h
  rw [Router.modifyAt_last hs] at h
  cases h
  rfl

end Registration

namespace Router

/-- The name is that of a route of the router, or of one of the routes added to it. -/
def Taken (r : Router) (added : List Route) (name : String) : Prop :=
  name ∈ r.names ∨ name ∈ added.map Route.name

/-- The name is free, and it is the one that is asked for, or else the least number from the counter on
that is free. -/
def Names (r : Router) (added : List Route) (asked : Option String) (name : String) : Prop :=
  ¬r.Taken added name ∧
    match asked with
    | some asked => name = asked
    | none => ∃ k, name = toString k ∧ r.nextIndex ≤ k ∧
      ∀ j, r.nextIndex ≤ j → j < k → r.Taken added (toString j)

/-- The other router is the first one with routes added to it. -/
structure Extended (r : Router) (added : List Route) (r' : Router) : Prop where
  config : r'.config = r.config
  globals : r'.globals = r.globals
  routes : r'.routes.toList = r.routes.toList ++ added
  names : ∀ name, name ∈ r'.names ↔ r.Taken added name
  counter : r.nextIndex ≤ r'.nextIndex
  counted : ∀ j, r.nextIndex ≤ j → j < r'.nextIndex → r.Taken added (toString j)

/-- A route as it is registered: what its template says, under its name and with the globals. -/
structure IsEntered (r : Router) (parsed : Route) (uri : String) (mask : MethodMask) (name : String)
    (route : Route) : Prop where
  name : route.name = name
  template : route.template = uri
  method : route.method = some mask
  segments : route.segments = parsed.segments
  patterns : route.patterns = parsed.patterns
  wellFormed : route.WellFormed
  defaults : ∀ key : String, route.defaults[key]? = r.globals[key]?

theorem entered_of_parse {r : Router} {parsed : Route} {uri : String} {mask : MethodMask}
    (h : Route.parse r.config.defaultPattern uri (some mask) = .ok parsed) (name : String) :
    r.IsEntered parsed uri mask name (r.entered parsed name) := by
  obtain ⟨htemplate, hmethod, -, hempty, -, hwell⟩ := Route.parse_ok h
  obtain ⟨defaults, hdefaults⟩ := Route.addParameters_ok { parsed with name } r.globals.toList
  have hnamed : { parsed with name }.WellFormed :=
    ⟨hwell.names, hwell.nodup, hwell.valid, hwell.regex⟩
  have hentered : r.entered parsed name = { { parsed with name } with defaults } := hdefaults
  refine ⟨?_, ?_, ?_, ?_, ?_, RouteChange.apply_wellFormed hnamed (r.apply_entered parsed name),
    fun key => ?_⟩
  · rw [hentered]
  · rw [hentered]
    exact htemplate
  · rw [hentered]
    exact hmethod
  · rw [hentered]
  · rw [hentered]
  · rw [entered, Route.getElem?_addParameters, Keyed.lookup_toList]
    change parsed.defaults[key]?.or _ = _
    rw [hempty]
    rfl

theorem taken_concat {r : Router} {added : List Route} {route : Route} {name : String} :
    r.Taken (added ++ [route]) name ↔ r.Taken added name ∨ name = route.name := by
  unfold Taken
  rw [List.map_append, List.mem_append, List.map_singleton, List.mem_singleton, or_assoc]

/-- A route under a name that is free extends the router, and so does any other one of that name in its
place. -/
theorem Extended.enter {base r : Router} {added : List Route} (h : base.Extended added r)
    {parsed route : Route} {name : String} (hname : route.name = name) {nextIndex : Nat}
    (hcounter : r.nextIndex ≤ nextIndex)
    (hcounted : ∀ j, r.nextIndex ≤ j → j < nextIndex → toString j ∈ r.names ∨ toString j = name) :
    base.Extended (added ++ [route])
      { { r with nextIndex }.enter parsed name with routes := r.routes.push route } where
  config := h.config
  globals := h.globals
  routes := by rw [Array.toList_push, h.routes, List.append_assoc]
  names other := by
    rw [taken_concat, ← h.names, hname]
    change other ∈ r.names.insert name r.routes.size ↔ _
    rw [Std.TreeMap.mem_insert, Std.LawfulEqCmp.compare_eq_iff_eq, or_comm, eq_comm]
  counter := h.counter.trans hcounter
  counted j hle hlt := by
    rw [taken_concat, hname]
    -- Numbers below the old counter were taken before.
    rcases Nat.lt_or_ge j r.nextIndex with hold | hnew
    · exact .inl (h.counted j hle hold)
    · exact (hcounted j hnew hlt).imp_left (h.names _).mp

theorem Extended.add {base r r' : Router} {added : List Route} (h : base.Extended added r)
    {uri : String} {mask : MethodMask} {asked : Option String}
    (hadd : r.add uri mask asked = (.ok (), r')) :
    ∃ parsed name, Route.parse r.config.defaultPattern uri (some mask) = .ok parsed ∧
      base.Names added asked name ∧ r'.routes = r.routes.push (r.entered parsed name) ∧
      ∀ route : Route, route.name = name →
        base.Extended (added ++ [route]) { r' with routes := r.routes.push route } := by
  have hnamed (name : String) (nextIndex : Nat)
      (hnamed : { r with nextIndex }.addNamed uri mask name = (.ok (), r')) :
      ∃ parsed, Route.parse r.config.defaultPattern uri (some mask) = .ok parsed ∧
        r' = { r with nextIndex }.enter parsed name := by
    unfold addNamed at hnamed
    split at hnamed
    · next parsed hparse => exact ⟨parsed, hparse, (congrArg Prod.snd hnamed).symm⟩
    · cases hnamed
  cases asked with
  | some name =>
    simp only [Router.add] at hadd
    split_ifs at hadd with htaken
    · cases hadd
    · obtain ⟨parsed, hparse, rfl⟩ := hnamed name r.nextIndex hadd
      refine ⟨parsed, name, hparse, ⟨fun hname => htaken ?_, rfl⟩, rfl, fun route hroute => ?_⟩
      · exact Std.TreeMap.contains_iff_mem.mpr ((h.names name).mpr hname)
      · refine h.enter hroute (Nat.le_refl _) fun j hle hlt => ?_
        exact absurd hlt (Nat.not_lt.mpr hle)
  | none =>
    obtain ⟨hle, hskipped, -⟩ := freeIndex_spec r.names r.names.size r.nextIndex
    have hfresh := freeIndex_fresh r.names r.nextIndex
    simp only [Router.add] at hadd
    generalize freeIndex r.names r.names.size r.nextIndex = index at hle hskipped hfresh hadd
    obtain ⟨parsed, hparse, rfl⟩ := hnamed (toString index) (index + 1) hadd
    refine ⟨parsed, toString index, hparse, ⟨fun hname => hfresh ((h.names _).mpr hname), index, rfl,
      h.counter.trans hle, fun j hj hlt => ?_⟩, rfl, fun route hroute => ?_⟩
    · rcases Nat.lt_or_ge j r.nextIndex with hold | hnew
      · exact h.counted j hj hold
      · exact (h.names _).mp (hskipped j hnew hlt)
    · refine h.enter hroute (by omega) fun j hj hlt => ?_
      rcases Nat.lt_or_eq_of_le (Nat.le_of_lt_succ hlt) with hlt | rfl
      · exact .inl (hskipped j hj hlt)
      · exact .inr rfl

end Router

namespace Registration

/-- A loop that changes the last route for one parameter after the other. -/
theorem forIn_specify_ok {ε : Type} {step : String × String → Registration ε Unit}
    (hstep : ∀ p s s', step p s = .ok () s' → configureLast (·.specify p.1 p.2) s = .ok () s')
    {patterns : List (String × String)} {s s' : Session} {u : PUnit}
    (h : (forIn patterns PUnit.unit fun p _ => do
      step p
      pure (ForInStep.yield PUnit.unit)) s = .ok u s')
    {routes : Array Route} {route : Route} (hs : s.router.routes = routes.push route) :
    ∃ route', route.specifyAll patterns = .ok route' ∧
      s'.router = { s.router with routes := routes.push route' } := by
  induction patterns generalizing s route with
  | nil =>
    cases h
    exact ⟨route, rfl, by rw [← hs]⟩
  | cons pair patterns ih =>
    rw [List.forIn_cons, bind_eq_ok] at h
    obtain ⟨_, t, hhere, hrest⟩ := h
    obtain ⟨_, t', hconfigure, hyield⟩ := bind_eq_ok.mp hhere
    cases hyield
    obtain ⟨next, hnext, ht⟩ := configureLast_ok (hstep pair _ _ hconfigure) hs
    have hroutes : t.router.routes = routes.push next := by rw [ht]
    obtain ⟨route', hroute', hrouter⟩ := ih hrest hroutes
    refine ⟨route', ?_, by rw [hrouter, ht]⟩
    unfold Route.specifyAll at hroute' ⊢
    rw [List.foldlM_cons]
    dsimp only
    rw [hnext]
    exact hroute'

end Registration

namespace Router

/-- A route that was entered behind the given ones, and then got patterns and defaults. -/
structure Holds (r : Router) (before : List Route) (uri : String) (mask : MethodMask)
    (asked : Option String) (patterns defaults : List (String × String)) (route : Route) : Prop where
  template : route.template = uri
  method : route.method = some mask
  named : r.Names before asked route.name
  wellFormed : route.WellFormed
  patterns : ∃ parsed, Route.parse r.config.defaultPattern uri (some mask) = .ok parsed ∧
    route.segments = parsed.segments ∧ route.patterns = Route.overridden parsed.patterns patterns
  defaults : ∀ key : String, route.defaults[key]? = r.globals[key]?.or (defaults.lookup key)

/-- Defaults are added to the globals. -/
theorem Holds.addParameters {r : Router} {before : List Route} {uri : String} {mask : MethodMask}
    {asked : Option String} {patterns : List (String × String)} {route : Route}
    (h : r.Holds before uri mask asked patterns [] route) (defaults : List (String × String)) :
    r.Holds before uri mask asked patterns defaults (route.addParameters defaults) := by
  obtain ⟨values, hadded⟩ := route.addParameters_ok defaults
  have hchange : (RouteChange.addParameters defaults).apply route =
      .ok (route.addParameters defaults) := rfl
  refine ⟨?_, ?_, ?_, RouteChange.apply_wellFormed h.wellFormed hchange, ?_, fun key => ?_⟩
  · rw [hadded]
    exact h.template
  · rw [hadded]
    exact h.method
  · rw [hadded]
    exact h.named
  · rw [hadded]
    exact h.patterns
  · rw [Route.getElem?_addParameters, h.defaults, List.lookup_nil, Option.or_none]

theorem Extended.addDecorated {r base : Router} {added : List Route} (h : r.Extended added base)
    (uri : String) (mask : MethodMask) (asked : Option String) :
    base.addDecorated uri mask asked = base.add (r.decorate uri) mask asked := by
  unfold Router.addDecorated decorate
  rw [h.config]

/-- A route that is added stands last, and with its patterns it is what is asked for but for the defaults. -/
theorem Extended.enters {r base router : Router} {added : List Route} (hs : r.Extended added base)
    {uri : String} {mask : MethodMask} {asked : Option String}
    (hadd : base.add uri mask asked = (.ok (), router)) :
    ∃ (routes : Array Route) (entered : Route), router.routes = routes.push entered ∧
      ∀ (patterns : List (String × String)) (route : Route), entered.specifyAll patterns = .ok route →
        r.Holds added uri mask asked patterns [] route ∧
        ∀ other : Route, other.name = route.name →
          r.Extended (added ++ [other]) { router with routes := routes.push other } := by
  obtain ⟨parsed, name, hparse, hnamed, hroutes, hextended⟩ := hs.add hadd
  have hentered := entered_of_parse hparse name
  refine ⟨_, _, hroutes, fun patterns route hspecified => ?_⟩
  obtain ⟨hkept, hmethod, hdefaults, hwell, hpatterns⟩ := Route.specifyAll_ok hspecified
  have hname : route.name = name := hkept.name.trans hentered.name
  refine ⟨⟨hkept.template.trans hentered.template, hmethod.trans hentered.method, ?_,
    hwell hentered.wellFormed, ⟨parsed, ?_, hkept.segments.trans hentered.segments, ?_⟩,
    fun key => ?_⟩, fun other hother => hextended other (hother.trans hname)⟩
  · rw [hname]
    exact hnamed
  · rw [← hs.config]
    exact hparse
  · rw [hpatterns, hentered.patterns]
  · rw [hdefaults, hentered.defaults, hs.globals, List.lookup_nil, Option.or_none]

/-- All that the registration of a route does to the router. -/
theorem Extended.register {r : Router} {added : List Route} {s t t' s' : Session}
    (hs : r.Extended added s.router) {uri : String} {mask : MethodMask} {asked : Option String}
    {patterns defaults : List (String × String)}
    (hadd : s.router.add uri mask asked = (.ok (), t.router))
    (hspecify : ∀ {routes : Array Route} {route : Route}, t.router.routes = routes.push route →
      ∃ route', route.specifyAll patterns = .ok route' ∧
        t'.router = { t.router with routes := routes.push route' })
    {ε : Type}
    (hamend : (Registration.amendLast (·.addParameters defaults) : Registration ε Unit) t' = .ok () s') :
    ∃ route, r.Holds added uri mask asked patterns defaults route ∧
      r.Extended (added ++ [route]) s'.router := by
  obtain ⟨routes, entered, hroutes, hentered⟩ := hs.enters hadd
  obtain ⟨route, hspecified, ht⟩ := hspecify hroutes
  obtain ⟨hholds, hextended⟩ := hentered patterns route hspecified
  have hroutes' : t'.router.routes = routes.push route := by rw [ht]
  have hrouter := Registration.amendLast_ok hamend hroutes'
  obtain ⟨values, hadded⟩ := route.addParameters_ok defaults
  have hname : (route.addParameters defaults).name = route.name := by rw [hadded]
  refine ⟨route.addParameters defaults, hholds.addParameters defaults, ?_⟩
  rw [hrouter, ht]
  exact hextended _ hname

end Router

/-- The route is what is asked for, added to a router behind the given routes. -/
structure PlannedRoute.Yields (planned : PlannedRoute) (r : Router) (before : List Route)
    (route : Route) : Prop where
  template : route.template = r.decorate planned.path
  method : route.method = some planned.method
  named : r.Names before planned.name route.name
  wellFormed : route.WellFormed
  patterns : ∃ parsed,
    Route.parse r.config.defaultPattern (r.decorate planned.path) (some planned.method) = .ok parsed ∧
      route.segments = parsed.segments ∧
      route.patterns = Route.overridden parsed.patterns planned.patterns
  defaults : ∀ key : String, route.defaults[key]? = r.globals[key]?.or (planned.defaults.lookup key)

theorem PlannedRoute.register_ok {planned : PlannedRoute} {s s' : Session}
    (h : planned.register s = .ok () s') {r : Router} {added : List Route}
    (hs : r.Extended added s.router) :
    ∃ route, planned.Yields r added route ∧ r.Extended (added ++ [route]) s'.router := by
  unfold PlannedRoute.register at h
  obtain ⟨_, t, henter, h⟩ := Registration.bind_eq_ok.mp h
  obtain ⟨_, t', hspecify, hamend⟩ := Registration.bind_eq_ok.mp h
  have hadd : s.router.add (r.decorate planned.path) planned.method planned.name = (.ok (), t.router) := by
    rw [← hs.addDecorated]
    exact Registration.enter_ok henter
  obtain ⟨route, hroute, hextended⟩ :=
    hs.register hadd (Registration.forIn_specify_ok (fun _ _ _ hstep => hstep) hspecify) hamend
  exact ⟨route, ⟨hroute.template, hroute.method, hroute.named, hroute.wellFormed, hroute.patterns,
    hroute.defaults⟩, hextended⟩

section Each

variable {α : Type} {P : α → List Route → Route → Prop} {added gained gained' : List Route}
  {asked asked' : List α}

/-- Each route is what is asked for at its place, behind the routes before it. -/
def Each (P : α → List Route → Route → Prop) (added : List Route) (asked : List α)
    (gained : List Route) : Prop :=
  gained.length = asked.length ∧ ∀ (i : Nat) (a : α) (route : Route),
    asked[i]? = some a → gained[i]? = some route → P a (added ++ gained.take i) route

theorem Each.nil : Each P added [] [] :=
  ⟨rfl, fun i a route ha => by cases ha⟩

theorem Each.cons {a : α} {route : Route} (hroute : P a added route)
    (h : Each P (added ++ [route]) asked gained) : Each P added (a :: asked) (route :: gained) := by
  refine ⟨congrArg (· + 1) h.1, fun i a' route' ha' hroute' => ?_⟩
  cases i with
  | zero =>
    cases ha'
    cases hroute'
    rw [List.take_zero, List.append_nil]
    exact hroute
  | succ i =>
    rw [List.take_succ_cons, List.append_cons]
    exact h.2 i a' route' ha' hroute'

theorem Each.append (h : Each P added asked gained) (h' : Each P (added ++ gained) asked' gained') :
    Each P added (asked ++ asked') (gained ++ gained') := by
  refine ⟨by rw [List.length_append, List.length_append, h.1, h'.1], fun i a route ha hroute => ?_⟩
  rcases Nat.lt_or_ge i asked.length with hlt | hge
  · have hlt' : i < gained.length := h.1 ▸ hlt
    rw [List.getElem?_append_left hlt] at ha
    rw [List.getElem?_append_left hlt'] at hroute
    rw [List.take_append_of_le_length (Nat.le_of_lt hlt')]
    exact h.2 i a route ha hroute
  · have hge' : gained.length ≤ i := h.1 ▸ hge
    rw [List.getElem?_append_right hge] at ha
    rw [List.getElem?_append_right hge', h.1] at hroute
    rw [List.take_append, List.take_of_length_le hge', ← List.append_assoc, h.1]
    exact h'.2 _ a route ha hroute

end Each

namespace Router

/-- The routes are what is asked for one after the other, each added behind those before it. -/
def Gains (r : Router) (added : List Route) (asked : List PlannedRoute) (gained : List Route) : Prop :=
  gained.length = asked.length ∧ ∀ (i : Nat) (planned : PlannedRoute) (route : Route),
    asked[i]? = some planned → gained[i]? = some route → planned.Yields r (added ++ gained.take i) route

theorem Gains.cons {r : Router} {added gained : List Route} {asked : List PlannedRoute}
    {planned : PlannedRoute} {route : Route} (hroute : planned.Yields r added route)
    (h : r.Gains (added ++ [route]) asked gained) :
    r.Gains added (planned :: asked) (route :: gained) :=
  Each.cons hroute h

theorem Gains.append {r : Router} {added gained gained' : List Route} {asked asked' : List PlannedRoute}
    (h : r.Gains added asked gained) (h' : r.Gains (added ++ gained) asked' gained') :
    r.Gains added (asked ++ asked') (gained ++ gained') :=
  Each.append h h'

theorem Gains.exists_planned {r : Router} {added gained : List Route} {asked : List PlannedRoute}
    (h : r.Gains added asked gained) {route : Route} (hroute : route ∈ gained) :
    ∃ planned ∈ asked, ∃ before, planned.Yields r before route := by
  obtain ⟨i, hi⟩ := List.mem_iff_getElem?.mp hroute
  have hlt : i < asked.length := h.1 ▸ (List.getElem?_eq_some_iff.mp hi).1
  have hplanned := List.getElem?_eq_getElem hlt
  exact ⟨_, List.getElem_mem hlt, _, h.2 i _ route hplanned hi⟩

theorem Gains.exists_route {r : Router} {added gained : List Route} {asked : List PlannedRoute}
    (h : r.Gains added asked gained) {planned : PlannedRoute} (hplanned : planned ∈ asked) :
    ∃ route ∈ gained, ∃ before, planned.Yields r before route := by
  obtain ⟨i, hi⟩ := List.mem_iff_getElem?.mp hplanned
  have hlt : i < gained.length := h.1 ▸ (List.getElem?_eq_some_iff.mp hi).1
  have hroute := List.getElem?_eq_getElem hlt
  exact ⟨_, List.getElem_mem hlt, _, h.2 i planned _ hi hroute⟩

end Router

/-- The steps of a plan add the routes that it asks for. -/
theorem PlanStep.forM_run_ok {steps : List PlanStep} {s s' : Session}
    (h : (steps.forM run) s = .ok ⟨⟩ s') {r : Router} {added : List Route}
    (hs : r.Extended added s.router) :
    ∃ gained, r.Gains added (steps.filterMap planned?) gained ∧
      r.Extended (added ++ gained) s'.router := by
  induction steps generalizing s added with
  | nil =>
    cases h
    refine ⟨[], ⟨rfl, fun i planned route hplanned => ?_⟩, ?_⟩
    · cases hplanned
    · rw [List.append_nil]
      exact hs
  | cons step steps ih =>
    obtain ⟨_, t, hstep, hrest⟩ := Registration.bind_eq_ok.mp h
    cases step with
    | route planned =>
      obtain ⟨route, hroute, ht⟩ := PlannedRoute.register_ok hstep hs
      obtain ⟨gained, hgained, hs'⟩ := ih hrest ht
      refine ⟨route :: gained, hgained.cons hroute, ?_⟩
      rw [List.append_cons]
      exact hs'
    | finished resource routes depth =>
      -- A report leaves the router as it is.
      cases hstep
      exact ih hrest hs

theorem PlanStep.countP_isRoute (steps : List PlanStep) :
    steps.countP isRoute = (steps.filterMap planned?).length := by
  induction steps with
  | nil => rfl
  | cons step steps ih =>
    cases step <;> simp [List.countP_cons, List.filterMap_cons, isRoute, planned?, ih]

theorem Router.Extended.refl (r : Router) : r.Extended [] r := by
  refine ⟨rfl, rfl, (List.append_nil _).symm, fun name => ?_, Nat.le_refl _, fun j hle hlt => ?_⟩
  · simp [Router.Taken]
  · exact absurd hlt (Nat.not_lt.mpr hle)

theorem Resource.register_ok {resource : Resource} {s s' : Session} {count : Nat}
    (h : resource.register s = .ok count s') {r : Router} {added : List Route}
    (hs : r.Extended added s.router) :
    count = resource.layout.length ∧
      ∃ gained, r.Gains added resource.layout gained ∧ r.Extended (added ++ gained) s'.router := by
  obtain ⟨_, t, hsteps, hcount⟩ := Registration.bind_eq_ok.mp h
  cases hcount
  obtain ⟨gained, hgained, hextended⟩ := PlanStep.forM_run_ok hsteps hs
  rw [plan_eq_layout] at hgained
  refine ⟨?_, gained, hgained, hextended⟩
  rw [PlanStep.countP_isRoute, plan_eq_layout]

theorem Registration.run_eq_ok {ε α : Type} {x : Registration ε α} {router : Router} {a : α}
    {session : Session} (h : x.run router = (.ok a, session)) : x { router } = .ok a session := by
  unfold Registration.run at h
  split at h
  · next hok =>
    cases h
    exact hok
  · cases h

theorem Registration.run_eq_error {ε α : Type} {x : Registration ε α} {router : Router} {e : ε}
    {session : Session} (h : x.run router = (.error e, session)) : x { router } = .error e session := by
  unfold Registration.run at h
  split at h
  · cases h
  · next herror =>
    cases h
    exact herror

/-- Registering a tree of resources adds the routes of its layout, in this order and nothing else, and
counts them. -/
theorem Resource.register_layout {resource : Resource} {router : Router} {count : Nat}
    {session : Session} (h : resource.register.run router = (.ok count, session)) :
    count = resource.layout.length ∧
      ∃ gained, router.Gains [] resource.layout gained ∧ router.Extended gained session.router :=
  register_ok (Registration.run_eq_ok h) (.refl router)

/-- Keys of an account, and their uses: the routes on one key leave out the account, and those on the
uses do not. -/
theorem Resource.register_layout_account :
    let uses := (new "use" (some "uses")).only ["show", "update"]
    let keys := (((new "key" (some "keys")).only ["index", "edit"]).withIdPattern "\\d+").withShallow true
    let account := ((new "account" none).only ["show"]).nest (keys.nest uses)
    let router := Router.afterAll { pathPrefix := "/" } [.addGlobals [("locale", "en")]]
    account.layout.map (fun planned => (planned.path, planned.name)) =
        [("account", some "account"), ("keys/\x7bkey_id\x7d/edit", some "edit_key"),
          ("account/keys", some "account_keys"),
          ("account/keys/\x7bkey_id\x7d/uses/\x7bid\x7d", some "account_key_use"),
          ("account/keys/\x7bkey_id\x7d/uses/\x7bid\x7d", none)] ∧
      ∃ session gained, account.register.run router = (.ok 5, session) ∧
        router.Gains [] account.layout gained ∧ router.Extended gained session.router := by
  intro uses keys account router
  have hlayout : account.layout.map (fun planned => (planned.path, planned.name)) =
      [("account", some "account"), ("keys/\x7bkey_id\x7d/edit", some "edit_key"),
        ("account/keys", some "account_keys"),
        ("account/keys/\x7bkey_id\x7d/uses/\x7bid\x7d", some "account_key_use"),
        ("account/keys/\x7bkey_id\x7d/uses/\x7bid\x7d", none)] := by
    decide +kernel
  have hcount : (account.register.run router).1.toOption = some 5 := by decide +kernel
  have hrun := eq_of_toOption hcount
  obtain ⟨-, gained, hgained, hextended⟩ := register_layout hrun
  exact ⟨hlayout, _, gained, hrun, hgained, hextended⟩

end Routing
