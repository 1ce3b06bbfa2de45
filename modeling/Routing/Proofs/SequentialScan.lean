import Routing.Proofs.TableLookup

/-! Requests as a search through all routes, one after the other, resolves them, and how far a matcher
agrees with it. -/
namespace Routing

/-- The match that a route gives by its own regular expression. -/
def Route.accept? (r : Route) (path : String) : Option Match :=
  (r.values? path).map fun values => .of r (r.parameterNames.zip values)

namespace Router

/-- The first static route at the path that accepts the request. -/
def staticFor? (r : Router) (path : String) (mask : Option MethodMask) : Option Route :=
  r.routes.toList.find? fun route =>
    (route.isStatic && route.path == path) && route.isMethod mask

/-- Resolves a request by trying the static routes, and then the others, each in the order of their
registration. -/
def scan (r : Router) (path : String) (mask : Option MethodMask) : Option Match :=
  match r.staticFor? path mask with
  | some route => some (.of route [])
  | none => (r.routes.toList.filter fun route => !route.isStatic && route.isMethod mask).findSome?
      (·.accept? path)

/-- If a dynamic route has to answer, then some table is clear up to the first one that accepts the
path. -/
def Undisturbed (r : Router) (path : String) (mask : Option MethodMask) : Prop :=
  r.staticFor? path mask = none →
    ∀ member values, FirstToAccept (r.candidates mask) path member values →
      ∃ table ∈ consulted mask, ∃ piece ∈ r.pieces table, Clear piece member.1

variable {r : Router} {m : Matcher} {path : String} {mask : Option MethodMask}

theorem Consistent.find?_static (hr : r.Consistent) (path : String) (mask : Option MethodMask) :
    (r.staticRoutesAt path).find? (·.isMethod mask) = r.staticFor? path mask := by
  rw [hr.staticRoutesAt_eq, List.find?_filter]
  unfold staticFor?
  congr 1
  funext route
  rw [Bool.decide_and, Bool.decide_eq_true, Bool.decide_eq_true]

/-- No two positions hold the same route. -/
theorem Consistent.position_inj (hr : r.Consistent) {i j : Nat} {route : Route}
    (hi : r.routeAt? i = some route) (hj : r.routeAt? j = some route) : i = j := by
  have hname := (hr.names route.name i).mpr ⟨route, hi, rfl⟩
  rw [(hr.names route.name j).mpr ⟨route, hj, rfl⟩] at hname
  exact (Option.some.inj hname).symm

theorem scan_static {route : Route} (h : r.staticFor? path mask = some route) :
    r.scan path mask = some (.of route []) := by
  unfold scan
  rw [h]

theorem scan_eq (h : r.staticFor? path mask = none) :
    r.scan path mask = (r.candidates mask).findSome? fun member => member.2.accept? path := by
  unfold scan
  rw [h, ← map_candidates, List.findSome?_map]
  rfl

theorem scan_first (h : r.staticFor? path mask = none) {member : Nat × Route} {values : List String}
    (hfirst : FirstToAccept (r.candidates mask) path member values) :
    r.scan path mask = some (.of member.2 (member.2.parameterNames.zip values)) := by
  obtain ⟨before, after, hsplit, hbefore, -, -⟩ :=
    Chunk.exists_split (r.ordered_candidates mask) hfirst
  have hnone : before.findSome? (fun member => member.2.accept? path) = none := by
    rw [List.findSome?_eq_none_iff]
    intro other ho
    unfold Route.accept?
    rw [hbefore other ho]
    rfl
  have hhere : member.2.accept? path =
      some (.of member.2 (member.2.parameterNames.zip values)) := by
    unfold Route.accept?
    rw [hfirst.accepts]
    rfl
  rw [scan_eq h, hsplit, List.findSome?_append, hnone, Option.none_or,
    List.findSome?_cons_of_isSome (by rw [hhere]; rfl), hhere]

theorem scan_none (h : r.staticFor? path mask = none)
    (hnone : ∀ other ∈ r.candidates mask, other.2.values? path = none) :
    r.scan path mask = none := by
  rw [scan_eq h, List.findSome?_eq_none_iff]
  intro other ho
  unfold Route.accept?
  rw [hnone other ho]
  rfl

end Router

namespace Matcher

variable {r : Router} {m : Matcher} {path : String} {mask : Option MethodMask}

open Router

theorem matchPath_static (hr : r.Consistent) (hm : ofRouter r = .ok m) {route : Route}
    (h : r.staticFor? path mask = some route) : m.matchPath path mask = some (.of route []) := by
  unfold matchPath resolve
  rw [(ofRouter_eq_ok hm).1, hr.find?_static, h]
  rfl

theorem matchPath_dynamic (hr : r.Consistent) (hm : ofRouter r = .ok m)
    (h : r.staticFor? path mask = none) :
    m.matchPath path mask = (m.findDynamic? path mask).bind fun found =>
      (r.routeAt? found.1).map fun route => .of route (route.parameterNames.zip found.2) := by
  unfold matchPath resolve
  rw [(ofRouter_eq_ok hm).1, hr.find?_static, h]
  dsimp only
  cases m.findDynamic? path mask with
  | none => rfl
  | some found =>
    rw [Option.bind_some]
    dsimp only
    cases r.routeAt? found.1 <;> rfl

/-- In a disturbed request, no match is on the route that has to answer. -/
theorem undisturbed_of_route (hr : r.Reachable) (hquiet : r.Quiet) (hm : ofRouter r = .ok m)
    {x : Match} (hx : m.matchPath path mask = some x)
    (h : (r.scan path mask).map Match.route = some x.route) : r.Undisturbed path mask := by
  have hconsistent := consistent_of_reachable hr
  intro hstatic member values hfirst
  by_contra hclear
  rw [scan_first hstatic hfirst, Option.map_some, Option.some.injEq] at h
  rw [matchPath_dynamic hconsistent hm hstatic] at hx
  obtain ⟨found, hfound, hx⟩ := Option.bind_eq_some_iff.mp hx
  obtain ⟨route, hroute, rfl⟩ := Option.map_eq_some_iff.mp hx
  -- The tables have found a later position, where the same route cannot stand again.
  have hlt := lt_of_findDynamic? hr hquiet hm hfirst hclear hfound
  have hsame : member.2 = route := h
  rw [← hsame] at hroute
  have hposition := hconsistent.position_inj hroute (mem_candidates.mp hfirst.mem).1
  omega

/-- The tables agree with the search through all routes exactly for the requests that hidden groups leave
alone. -/
theorem matchPath_iff (hr : r.Reachable) (hquiet : r.Quiet) (hm : ofRouter r = .ok m) :
    m.matchPath path mask = r.scan path mask ↔ r.Undisturbed path mask := by
  have hconsistent := consistent_of_reachable hr
  cases hstatic : r.staticFor? path mask with
  | some route =>
    rw [matchPath_static hconsistent hm hstatic, scan_static hstatic]
    refine ⟨fun _ hnone => ?_, fun _ => rfl⟩
    rw [hstatic] at hnone
    cases hnone
  | none =>
    constructor
    · intro h _ member values hfirst
      have hscan := scan_first hstatic hfirst
      exact undisturbed_of_route hr hquiet hm (h.trans hscan) (by rw [hscan]; rfl) hstatic member
        values hfirst
    · intro h
      rw [matchPath_dynamic hconsistent hm hstatic]
      by_cases haccepts : ∃ member ∈ r.candidates mask, member.2.values? path ≠ none
      · obtain ⟨member, values, hfirst⟩ := exists_firstToAccept (r.ordered_candidates mask) haccepts
        rw [findDynamic?_of_clear hr hquiet hm hfirst (h hstatic member values hfirst),
          Option.bind_some, (mem_candidates.mp hfirst.mem).1, scan_first hstatic hfirst]
        rfl
      · push Not at haccepts
        rw [findDynamic?_none hr hquiet hm haccepts, scan_none hstatic haccepts]
        rfl

/-- Without hidden groups nothing is disturbed. -/
theorem undisturbed_of_hidden (hhidden : ∀ route ∈ r.routes.toList, route.hidden = 0)
    (path : String) (mask : Option MethodMask) : r.Undisturbed path mask := by
  intro _ member values hfirst
  obtain ⟨table, htable, hin⟩ := mem_candidates_iff.mp hfirst.mem
  have hflat := hin
  rw [← flatten_pieces] at hflat
  obtain ⟨piece, hpiece, hmember⟩ := List.mem_flatten.mp hflat
  refine ⟨table, htable, piece, hpiece, List.mem_map_of_mem hmember, fun other ho _ => ?_⟩
  have hother : other ∈ (r.pieces table).flatten := List.mem_flatten_of_mem hpiece ho
  rw [flatten_pieces, mem_candidates] at hother
  exact hhidden other.2 (mem_routes hother.1)

end Matcher

/-- Matching is the search through all routes, as far as no group hides in the pattern of a parameter:
without such groups there is always a matcher, and it answers every request as the search does. With
them, a matcher does so for exactly those requests that have some table in which no group hides up to
the route that has to answer. -/
theorem matchPath_eq_scan {r : Router} (hr : r.Reachable) (hquiet : r.Quiet) :
    ((∀ route ∈ r.routes.toList, route.hidden = 0) →
      ∃ m, Matcher.ofRouter r = .ok m ∧ ∀ path mask, m.matchPath path mask = r.scan path mask) ∧
    ∀ m, Matcher.ofRouter r = .ok m → ∀ path mask,
      (m.matchPath path mask = r.scan path mask ↔ r.Undisturbed path mask) := by
  refine ⟨fun hhidden => ?_, fun m hm path mask => Matcher.matchPath_iff hr hquiet hm⟩
  obtain ⟨m, hm⟩ := Matcher.exists_ofRouter hr hquiet hhidden
  exact ⟨m, hm, fun path mask => (Matcher.matchPath_iff hr hquiet hm).mpr
    (Matcher.undisturbed_of_hidden hhidden path mask)⟩

/-- A number, and a name for all that is none. -/
theorem matchPath_eq_scan_users :
    let r := Router.afterAll {} [.add "/users/\x7bid:\\d+\x7d" .get (some "user"),
      .add "/users/\x7bname\x7d" .any none]
    r.Quiet ∧ (∀ route ∈ r.routes.toList, route.hidden = 0) ∧
      ∃ m, Matcher.ofRouter r = .ok m ∧ ∀ path mask, m.matchPath path mask = r.scan path mask := by
  intro r
  have hquiet : r.Quiet := by decide +kernel
  have hhidden : ∀ route ∈ r.routes.toList, route.hidden = 0 := by decide +kernel
  exact ⟨hquiet, hhidden, (matchPath_eq_scan (Router.reachable_afterAll _ _) hquiet).1 hhidden⟩

/-- A group that is repeated zero times makes its route unreachable. -/
theorem matchPath_ne_scan :
    ∃ r m, r.Reachable ∧ r.Quiet ∧ Matcher.ofRouter r = .ok m ∧ m.matchPath "/x/b" none = none ∧
      (r.scan "/x/b" none).map (fun found => (found.route.name, found.parameters.toList)) =
        some ("n", [("p", "b")]) := by
  have hmatch : (Matcher.ofRouter (Router.afterAll {} [.add "/x/\x7bp:(a)\x7b0\x7db\x7d" .any
      (some "n")])).toOption.map (fun m => (m.matchPath "/x/b" none).isSome) = some false := by
    decide +kernel
  obtain ⟨m, hm, hnone⟩ := Option.map_eq_some_iff.mp hmatch
  refine ⟨_, m, Router.reachable_afterAll _ _, by decide +kernel, ok_of_toOption hm, ?_, ?_⟩
  · simpa using hnone
  · decide +kernel

end Routing
