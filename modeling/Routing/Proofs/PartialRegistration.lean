import Routing.Proofs.FailedRegistration
import Routing.Proofs.ResourceRegistration

/-! Registrations of trees of resources that fail on the way: what they leave in the router. -/
namespace Routing

namespace Registration

variable {ε α β : Type}

theorem bind_eq_error {x : Registration ε α} {f : α → Registration ε β} {s s' : Session} {e : ε} :
    (x >>= f) s = .error e s' ↔
      x s = .error e s' ∨ ∃ a t, x s = .ok a t ∧ f a t = .error e s' := by
  simp only [Bind.bind, EStateM.bind]
  cases x s with
  | ok a t => simp
  | error e t => simp

theorem enter_error {operation : Router → Except Error Unit × Router} {s s' : Session} {e : Error}
    (h : enter operation s = .error e s') : operation s.router = (.error e, s'.router) := by
  unfold enter at h
  split at h
  · cases h
  · next hs =>
    cases h
    exact hs

/-- A change to the last route that fails leaves everything as it is. -/
theorem configureLast_error {f : Route → Except Error Route} {s s' : Session} {e : Error}
    (h : configureLast f s = .error e s') {routes : Array Route} {route : Route}
    (hs : s.router.routes = routes.push route) : f route = .error e ∧ s'.router = s.router := by
  unfold configureLast at h
  rw [Router.modifyAt_last hs] at h
  cases hf : f route with
  | ok route' => simp [hf] at h
  | error e' =>
    rw [hf] at h
    cases h
    exact ⟨rfl, rfl⟩

/-- A loop that changes the last route fails with the first pattern that is refused, and the route has
those before it. -/
theorem forIn_specify_error {patterns : List (String × String)} {s s' : Session} {e : Error}
    (h : (forIn patterns PUnit.unit fun (p : String × String) _ => do
      configureLast (·.specify p.1 p.2)
      pure (ForInStep.yield PUnit.unit)) s = .error e s')
    {routes : Array Route} {route : Route} (hs : s.router.routes = routes.push route) :
    ∃ good refused bad route', patterns = good ++ refused :: bad ∧
      route.specifyAll good = .ok route' ∧ route'.specify refused.1 refused.2 = .error e ∧
      s'.router = { s.router with routes := routes.push route' } := by
  induction patterns generalizing s route with
  | nil => cases h
  | cons pair patterns ih =>
    rw [List.forIn_cons] at h
    rcases bind_eq_error.mp h with hhere | ⟨step, t, hhere, hrest⟩
    · rcases bind_eq_error.mp hhere with hconfigure | ⟨_, _, -, hyield⟩
      · obtain ⟨hrefused, hrouter⟩ := configureLast_error hconfigure hs
        refine ⟨[], pair, patterns, route, rfl, rfl, hrefused, ?_⟩
        rw [hrouter, ← hs]
      · cases hyield
    · obtain ⟨_, t', hconfigure, hyield⟩ := bind_eq_ok.mp hhere
      cases hyield
      obtain ⟨next, hnext, ht⟩ := configureLast_ok hconfigure hs
      have hroutes : t.router.routes = routes.push next := by rw [ht]
      obtain ⟨good, refused, bad, route', hsplit, hgood, hrefused, hrouter⟩ := ih hrest hroutes
      refine ⟨pair :: good, refused, bad, route', by rw [hsplit]; rfl, ?_, hrefused, by rw [hrouter, ht]⟩
      unfold Route.specifyAll at hgood ⊢
      rw [List.foldlM_cons]
      dsimp only
      rw [hnext]
      exact hgood

end Registration

/-- What could not be added is not among the routes. -/
theorem Router.routes_of_add_error {r r' : Router} {uri : String} {mask : MethodMask}
    {name : Option String} {e : Error} (h : r.add uri mask name = (.error e, r')) :
    r'.routes = r.routes := by
  have hafter := add_error (congrArg Prod.fst h)
  rw [h] at hafter
  have hrouter : r' = _ := hafter
  rw [hrouter]
  split_ifs <;> rfl

/-- A pattern that is refused is for a parameter, and not the one that it has. -/
theorem Route.specify_refused {r : Route} (hr : r.WellFormed) {name pattern : String} {e : Error}
    (h : r.specify name pattern = .error e) :
    name ∈ r.parameterNames ∧ (name, pattern) ∉ r.patterns := by
  obtain ⟨hname, hrefused⟩ := specify_eq_error.mp h
  refine ⟨hname, fun hmem => ?_⟩
  rcases hrefused with hinvalid | ⟨-, hregex⟩
  · rw [hr.valid _ hmem] at hinvalid
    cases hinvalid
  · rw [respecified_of_mem hr.nodup hmem, hr.regex] at hregex
    cases hregex

/-- A route that was added as planned, but then a pattern was refused: it has the patterns before that one
and no default but the globals. -/
structure PlannedRoute.Abandons (planned : PlannedRoute) (r : Router) (before : List Route) (e : Error)
    (refused : String × String) (route : Route) : Prop where
  template : route.template = r.decorate planned.path
  method : route.method = some planned.method
  named : r.Names before planned.name route.name
  wellFormed : route.WellFormed
  patterns : ∃ good bad parsed, planned.patterns = good ++ refused :: bad ∧
    Route.parse r.config.defaultPattern (r.decorate planned.path) (some planned.method) = .ok parsed ∧
    route.patterns = Route.overridden parsed.patterns good
  fails : route.specify refused.1 refused.2 = .error e
  missing : refused.1 ∈ route.parameterNames ∧ refused ∉ route.patterns
  defaults : ∀ key : String, route.defaults[key]? = r.globals[key]?

/-- The registration of a route fails: either the route is not added, or a pattern is refused and the route
is abandoned. -/
theorem PlannedRoute.register_fails {planned : PlannedRoute} {s s' : Session} {e : Error}
    (h : planned.register s = .error e s') {r : Router} {added : List Route}
    (hs : r.Extended added s.router) :
    s.router.addDecorated planned.path planned.method planned.name = (.error e, s'.router) ∨
      ∃ refused route, planned.Abandons r added e refused route ∧
        r.Extended (added ++ [route]) s'.router := by
  unfold PlannedRoute.register at h
  rcases Registration.bind_eq_error.mp h with henter | ⟨_, t, henter, h⟩
  · exact .inl (Registration.enter_error henter)
  right
  have hadd : s.router.add (r.decorate planned.path) planned.method planned.name = (.ok (), t.router) := by
    rw [← hs.addDecorated]
    exact Registration.enter_ok henter
  obtain ⟨routes, entered, hroutes, hentered⟩ := hs.enters hadd
  rcases Registration.bind_eq_error.mp h with hspecify | ⟨_, t', -, hamend⟩
  · obtain ⟨good, refused, bad, route, hsplit, hgood, hrefused, hrouter⟩ :=
      Registration.forIn_specify_error hspecify hroutes
    obtain ⟨hholds, hextended⟩ := hentered good route hgood
    obtain ⟨parsed, hparse, -, hpatterns⟩ := hholds.patterns
    have hmissing := Route.specify_refused hholds.wellFormed hrefused
    refine ⟨refused, route, ⟨hholds.template, hholds.method, hholds.named, hholds.wellFormed,
      ⟨good, bad, parsed, hsplit, hparse, hpatterns⟩, hrefused, hmissing, ?_⟩, ?_⟩
    · intro key
      rw [hholds.defaults, List.lookup_nil, Option.or_none]
    · rw [hrouter]
      exact hextended route rfl
  · -- Defaults can always be added.
    cases hamend

/-- The steps of a plan fail at one of its routes, with all routes before it complete. -/
theorem PlanStep.forM_run_error {steps : List PlanStep} {s s' : Session} {e : Error}
    (h : (steps.forM run) s = .error e s') {r : Router} {added : List Route}
    (hs : r.Extended added s.router) :
    ∃ done planned rest gained, steps.filterMap planned? = done ++ planned :: rest ∧
      r.Gains added done gained ∧
      ((∃ base, r.Extended (added ++ gained) base ∧
        base.addDecorated planned.path planned.method planned.name = (.error e, s'.router)) ∨
      ∃ refused route, planned.Abandons r (added ++ gained) e refused route ∧
        r.Extended (added ++ gained ++ [route]) s'.router) := by
  induction steps generalizing s added with
  | nil => cases h
  | cons step steps ih =>
    rcases Registration.bind_eq_error.mp h with hstep | ⟨_, t, hstep, hrest⟩
    · cases step with
      | route planned =>
        refine ⟨[], planned, _, [], rfl, Each.nil, ?_⟩
        rw [List.append_nil]
        rcases PlannedRoute.register_fails hstep hs with hadd | habandoned
        · exact .inl ⟨s.router, hs, hadd⟩
        · exact .inr habandoned
      | finished resource routes depth => cases hstep
    · cases step with
      | route planned =>
        obtain ⟨route, hroute, ht⟩ := PlannedRoute.register_ok hstep hs
        obtain ⟨done, failing, rest, gained, hsplit, hgained, hfails⟩ := ih hrest ht
        refine ⟨planned :: done, failing, rest, route :: gained, ?_, hgained.cons hroute, ?_⟩
        · exact congrArg (planned :: ·) hsplit
        · rw [List.append_cons]
          exact hfails
      | finished resource routes depth =>
        cases hstep
        exact ih hrest hs

namespace Resource

/-- Every pattern that a route of the layout asks for is the identifier pattern of a resource of the tree. -/
theorem idPattern_of_mem_layout {resource : Resource} {planned : PlannedRoute}
    (hplanned : planned ∈ resource.layout) {p : String × String} (hp : p ∈ planned.patterns) :
    ∃ n ∈ resource.nodes [], n.resource.idPattern = some p.2 := by
  obtain ⟨n, hn, hroute⟩ := List.mem_flatMap.mp hplanned
  have hpatterns : planned.patterns = n.patterns := by
    rcases List.mem_append.mp hroute with hmember | hcollection
    · unfold Node.memberRoutes at hmember
      split at hmember
      · cases hmember
      · obtain ⟨p, -, -, hpatterns⟩ := Node.of_mem_group hmember
        exact hpatterns
    · obtain ⟨p, -, -, hpatterns⟩ := Node.of_mem_group hcollection
      exact hpatterns
  rw [hpatterns] at hp
  rcases List.mem_append.mp hp with houter | hown
  · obtain ⟨a, ha, hpattern⟩ := List.mem_filterMap.mp houter
    obtain ⟨pattern, hid, rfl⟩ := Option.map_eq_some_iff.mp hpattern
    rcases ancestors_of_mem_nodes [] resource n hn a ha with hnone | ⟨-, m, hm, rfl⟩
    · cases hnone
    · exact ⟨m, hm, hid⟩
  · rw [Option.mem_toList] at hown
    obtain ⟨pattern, hid, rfl⟩ := Option.map_eq_some_iff.mp hown
    exact ⟨n, hn, hid⟩

/-- A registration that fails stops at one route of the layout. The routes from before stay where they
were, and the routes up to that one are complete. If that one cannot be added, nothing is left of it; but if
it is added and then refuses the identifier pattern of a resource, it stays behind abandoned, without that
pattern and without its controller and action. -/
theorem register_error {resource : Resource} {router : Router} {e : Error} {session : Session}
    (h : resource.register.run router = (.error e, session)) :
    ∃ done planned rest gained left, resource.layout = done ++ planned :: rest ∧
      session.router.routes.toList = router.routes.toList ++ (gained ++ left) ∧
      router.Gains [] done gained ∧
      ((left = [] ∧ ∃ base, router.Extended gained base ∧
        base.addDecorated planned.path planned.method planned.name = (.error e, session.router)) ∨
      ∃ refused route, left = [route] ∧ planned.Abandons router gained e refused route ∧
        router.Extended (gained ++ [route]) session.router ∧
        ∃ n ∈ resource.nodes [], n.resource.idPattern = some refused.2) := by
  rcases Registration.bind_eq_error.mp (Registration.run_eq_error h) with hsteps | ⟨_, t, -, hcount⟩
  · obtain ⟨done, planned, rest, gained, hsplit, hgained, hfails⟩ :=
      PlanStep.forM_run_error hsteps (Router.Extended.refl router)
    rw [plan_eq_layout] at hsplit
    rw [List.nil_append] at hfails
    rcases hfails with ⟨base, hbase, hadd⟩ | ⟨refused, route, habandons, hextended⟩
    · refine ⟨done, planned, rest, gained, [], hsplit, ?_, hgained, .inl ⟨rfl, base, hbase, hadd⟩⟩
      have hroutes := Router.routes_of_add_error hadd
      rw [hroutes, hbase.routes, List.append_nil]
    · have hmem : planned ∈ resource.layout := by
        rw [hsplit]
        exact List.mem_append_right _ List.mem_cons_self
      obtain ⟨good, bad, parsed, hpatterns, -, -⟩ := habandons.patterns
      have hrefused : refused ∈ planned.patterns := by
        rw [hpatterns]
        exact List.mem_append_right _ List.mem_cons_self
      have hid := idPattern_of_mem_layout hmem hrefused
      exact ⟨done, planned, rest, gained, [route], hsplit, hextended.routes, hgained,
        .inr ⟨refused, route, rfl, habandons, hextended, hid⟩⟩
  · cases hcount

/-- The second route of the posts asks for a name that is taken; the first one is complete. -/
theorem register_error_name :
    let posts := ((new "post" (some "posts")).only ["show", "new"]).withIdPattern "\\d+"
    let router := Router.afterAll {} [.add "/x" .get (some "new_posts")]
    ∃ session done planned rest gained left,
      posts.register.run router = (.error (.duplicateRoute "new_posts"), session) ∧
      posts.layout = done ++ planned :: rest ∧
      session.router.routes.toList = router.routes.toList ++ (gained ++ left) ∧
      router.Gains [] done gained ∧
      session.router.routes.toList.map (fun route => (route.name, route.patterns)) =
        [("new_posts", []), ("post", [("id", "\\d+")])] := by
  intro posts router
  have hfail : (posts.register.run router).1 = .error (.duplicateRoute "new_posts") := by
    decide +kernel
  have hrun : posts.register.run router = (.error (.duplicateRoute "new_posts"), _) :=
    Prod.ext hfail rfl
  obtain ⟨done, planned, rest, gained, left, hlayout, hroutes, hgained, -⟩ := register_error hrun
  exact ⟨_, done, planned, rest, gained, left, hrun, hlayout, hroutes, hgained, by decide +kernel⟩

/-- The identifier of the posts has a group, which no pattern may have: the route that was added for them
stays, without a controller and an action, and takes every identifier. -/
theorem register_error_group :
    let posts := ((new "post" (some "posts")).only ["show"]).withIdPattern "(\\d+)"
    let after := posts.register.run (Router.ofConfig {})
    after.1 = .error (.capturingGroup "id" "(\\d+)") ∧
      after.2.router.routes.toList.map
          (fun route => (route.name, route.path, route.patterns, route.defaults.toList)) =
        [("post", "posts/\x7bid\x7d", [("id", "[^/]+")], [])] ∧
      ((Matcher.ofRouter after.2.router).toOption.bind
        (·.matchPath "posts/seven" (some .get))).map (·.route.name) = some "post" := by
  intro posts after
  refine ⟨by decide +kernel, by decide +kernel, by decide +kernel⟩

end Resource
end Routing
