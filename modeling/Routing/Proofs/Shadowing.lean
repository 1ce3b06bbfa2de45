import Routing.Proofs.Generation
import Routing.Proofs.SequentialScan

/-! Which route answers for a path that was generated: its own, unless another one comes first. -/
namespace Routing

open Pattern

/-- The other route takes the request from the one at the position: static routes come before all
others, and routes of the same kind in the order of their registration. -/
structure Router.Shadows (r : Router) (path : String) (mask : Option MethodMask) (position : Nat)
    (route : Route) (i : Nat) (other : Route) : Prop where
  found : r.routeAt? i = some other
  method : other.isMethod mask = true
  accepts : other.accepts path = true
  first : other.isStatic = true ∧ route.isStatic = false ∨
    other.isStatic = route.isStatic ∧ i < position

namespace Router

variable {r : Router} {path : String} {mask : Option MethodMask} {position : Nat} {route : Route}

theorem staticFor?_eq_none : r.staticFor? path mask = none ↔
    ∀ i other, r.routeAt? i = some other → other.isStatic = true → other.isMethod mask = true →
      other.accepts path = false := by
  unfold staticFor?
  rw [List.find?_eq_none]
  constructor
  · intro h i other hi hstatic hmethod
    rw [Route.accepts_static hstatic]
    simpa [hstatic, hmethod] using h other (mem_routes hi)
  · intro h other hother
    obtain ⟨i, hi⟩ := Array.mem_iff_getElem?.mp (Array.mem_toList_iff.mp hother)
    by_cases hstatic : other.isStatic = true
    · by_cases hmethod : other.isMethod mask = true
      · have hrefuses := h i other hi hstatic hmethod
        rw [Route.accepts_static hstatic] at hrefuses
        simp [hrefuses]
      · simp [hmethod]
    · simp [hstatic]

/-- Without static routes, nothing comes before the first one. -/
theorem not_shadows_first (h : ∀ other ∈ r.routes.toList, other.isStatic = false) (i : Nat)
    (other : Route) : ¬r.Shadows path mask 0 route i other := by
  rintro ⟨hfound, -, -, ⟨hstatic, -⟩ | ⟨-, hlt⟩⟩
  · rw [h other (mem_routes hfound)] at hstatic
    cases hstatic
  · exact Nat.not_lt_zero i hlt

/-- Some route answers, if there is one that accepts the request. -/
theorem isSome_scan (hat : r.routeAt? position = some route) (hmethod : route.isMethod mask = true)
    (haccepts : route.accepts path = true) : (r.scan path mask).isSome := by
  cases hstatic : r.staticFor? path mask with
  | some other =>
    rw [scan_static hstatic]
    rfl
  | none =>
    have hdynamic : route.isStatic = false := by
      by_contra hkind
      have hrefuses := staticFor?_eq_none.mp hstatic _ _ hat (by simpa using hkind) hmethod
      exact Bool.false_ne_true (hrefuses.symm.trans haccepts)
    have hsome : route.values? path ≠ none := by
      rw [← Option.isSome_iff_ne_none, ← Route.accepts_dynamic hdynamic]
      exact haccepts
    obtain ⟨member, values, hfirst⟩ := exists_firstToAccept (r.ordered_candidates mask)
      ⟨(position, route), mem_candidates.mpr ⟨hat, hdynamic, hmethod⟩, hsome⟩
    rw [scan_first hstatic hfirst]
    rfl

/-- A route that nothing shadows answers for the paths that it accepts. -/
theorem scan_of_unshadowed (hat : r.routeAt? position = some route)
    (hmethod : route.isMethod mask = true) (haccepts : route.accepts path = true)
    (h : ∀ i other, ¬r.Shadows path mask position route i other) :
    (r.scan path mask).map Match.route = some route := by
  cases hkind : route.isStatic with
  | true =>
    have hstatic : r.staticFor? path mask = some route := by
      obtain ⟨hlt, hget⟩ := Array.getElem?_eq_some_iff.mp hat
      rw [Route.accepts_static hkind] at haccepts
      unfold staticFor?
      rw [List.find?_eq_some_iff_getElem]
      refine ⟨by simp [hkind, haccepts, hmethod], position, by simpa using hlt, by simpa using hget,
        fun i hi => ?_⟩
      -- An earlier static route that accepts the request would shadow this one.
      have hlt' : i < r.routes.toList.length := by
        rw [Array.length_toList]
        exact hi.trans hlt
      obtain ⟨other, hother⟩ : ∃ other, r.routes.toList[i] = other := ⟨_, rfl⟩
      have hat' : r.routeAt? i = some other := by
        unfold routeAt?
        rw [← Array.getElem?_toList, List.getElem?_eq_getElem hlt', hother]
      rw [hother]
      by_contra hfound
      simp only [Bool.not_eq_true', Bool.not_eq_false, Bool.and_eq_true] at hfound
      obtain ⟨⟨hstatic, hpath⟩, hmethod'⟩ := hfound
      refine h i other ⟨hat', hmethod', ?_, .inr ⟨hstatic.trans hkind.symm, hi⟩⟩
      rw [Route.accepts_static hstatic]
      exact hpath
    rw [scan_static hstatic]
    rfl
  | false =>
    have hstatic : r.staticFor? path mask = none := by
      rw [staticFor?_eq_none]
      intro i other hi hstatic hother
      by_contra haccepts
      exact h i other ⟨hi, hother, by simpa using haccepts, .inl ⟨hstatic, hkind⟩⟩
    rw [Route.accepts_dynamic hkind] at haccepts
    obtain ⟨values, hvalues⟩ := Option.isSome_iff_exists.mp haccepts
    have hfirst : FirstToAccept (r.candidates mask) path (position, route) values := by
      refine ⟨mem_candidates.mpr ⟨hat, hkind, hmethod⟩, hvalues, fun other ho hlt => ?_⟩
      obtain ⟨hi, hdynamic, hother⟩ := mem_candidates.mp ho
      by_contra hsome
      refine h other.1 other.2 ⟨hi, hother, ?_, .inr ⟨hdynamic.trans hkind.symm, hlt⟩⟩
      rw [Route.accepts_dynamic hdynamic]
      exact Option.isSome_iff_ne_none.mpr hsome
    rw [scan_first hstatic hfirst]
    rfl

end Router

/-- A path that is generated from values that fit is accepted by its route and, as far as no group hides
in the pattern of a parameter, resolves to some route: to its own, unless another one shadows it. With
hidden groups, an unshadowed route answers for exactly the requests that they leave alone. -/
theorem matchPath_generate {r : Router} (hr : r.Reachable) (hquiet : r.Quiet) {position : Nat}
    {route : Route} (hat : r.routeAt? position = some route)
    (hlook : ∀ p ∈ route.patterns, (own p.2).lookFree = true) {pairs : List (String × String)}
    (hfits : route.Fits pairs) :
    ∃ path, r.generate true route.name pairs = .ok path ∧ route.accepts path = true ∧
      ((∀ other ∈ r.routes.toList, other.hidden = 0) → ∃ m, Matcher.ofRouter r = .ok m) ∧
      ∀ m, Matcher.ofRouter r = .ok m → ∀ mask, route.isMethod mask = true →
        (route.isStatic = true ∨ (∀ other ∈ r.routes.toList, other.hidden = 0) →
          r.Undisturbed path mask) ∧
        (r.Undisturbed path mask → (m.matchPath path mask).isSome) ∧
        ((∀ i other, ¬r.Shadows path mask position route i other) →
          ((m.matchPath path mask).map Match.route = some route ↔ r.Undisturbed path mask)) := by
  have hroute := Router.mem_routes hat
  have hwell := hr.wellFormed route hroute
  have hget : r.getRoute route.name = .ok route :=
    (Router.consistent_of_reachable hr).getRoute_eq_ok.mpr ⟨hroute, rfl⟩
  have hgenerate := Router.generate_eq_filled hget hwell hfits.known hfits.isSome_used?
  have haccepts := hfits.accepts_filled hwell (hr.enclosed hquiet hroute) hlook
  refine ⟨_, hgenerate, haccepts, fun hhidden => Matcher.exists_ofRouter hr hquiet hhidden,
    fun m hm mask hmethod => ?_⟩
  have hscan : m.matchPath (route.filled pairs) mask = r.scan (route.filled pairs) mask ↔
      r.Undisturbed (route.filled pairs) mask := Matcher.matchPath_iff hr hquiet hm
  refine ⟨?_, fun h => ?_, fun h => ⟨fun hmatch => ?_, fun hclear => ?_⟩⟩
  · rintro (hstatic | hhidden)
    · intro hnone
      have hrefuses := Router.staticFor?_eq_none.mp hnone _ _ hat hstatic hmethod
      exact absurd (hrefuses.symm.trans haccepts) Bool.false_ne_true
    · exact Matcher.undisturbed_of_hidden hhidden _ mask
  · rw [hscan.mpr h]
    exact Router.isSome_scan hat hmethod haccepts
  · obtain ⟨x, hx, rfl⟩ := Option.map_eq_some_iff.mp hmatch
    exact Matcher.undisturbed_of_route hr hquiet hm hx
      (Router.scan_of_unshadowed hat hmethod haccepts h)
  · rw [hscan.mpr hclear]
    exact Router.scan_of_unshadowed hat hmethod haccepts h

/-- A number and a page that is known by default, before a name for all other users. -/
theorem matchPath_generate_page :
    let r := Router.afterAll {} [.add "/users/\x7bid:\\d+\x7d/\x7bpage\x7d" .get (some "page"),
      .amend "page" (.set "page" "new"), .add "/users/\x7bname\x7d/\x7bpage\x7d" .any none]
    ∃ m x, r.generate true "page" [("id", "42")] = .ok "/users/42/new" ∧
      Matcher.ofRouter r = .ok m ∧ m.matchPath "/users/42/new" (some .get) = some x ∧
      x.route.name = "page" := by
  intro r
  have hquiet : r.Quiet := by decide +kernel
  have hhidden : ∀ other ∈ r.routes.toList, other.hidden = 0 := by decide +kernel
  have hdynamic : ∀ other ∈ r.routes.toList, other.isStatic = false := by decide +kernel
  have hurl : (r.generate true "page" [("id", "42")]).toOption = some "/users/42/new" := by
    decide +kernel
  have hfacts : (r.routeAt? 0).any (fun route => decide (route.name = "page" ∧
      (∀ p ∈ route.patterns, (own p.2).lookFree = true) ∧ route.Fits [("id", "42")] ∧
      route.isMethod (some .get) = true)) = true := by
    decide +kernel
  obtain ⟨route, hat, hroute⟩ := (Option.any_eq_true _ _).mp hfacts
  obtain ⟨hname, hlook, hfits, hmethod⟩ := of_decide_eq_true hroute
  obtain ⟨path, hgenerate, -, hcompiles, hmatches⟩ :=
    matchPath_generate (Router.reachable_afterAll _ _) hquiet hat hlook hfits
  rw [hname, ok_of_toOption hurl] at hgenerate
  cases hgenerate
  obtain ⟨m, hm⟩ := hcompiles hhidden
  obtain ⟨hundisturbed, -, hunshadowed⟩ := hmatches m hm _ hmethod
  obtain ⟨x, hx, hsame⟩ := Option.map_eq_some_iff.mp
    ((hunshadowed (Router.not_shadows_first hdynamic)).mpr (hundisturbed (.inr hhidden)))
  exact ⟨m, x, ok_of_toOption hurl, hm, hx, hsame ▸ hname⟩

/-- A group that is repeated zero times keeps the path of a route from it. -/
theorem matchPath_generate_ne :
    ∃ r m route, r.Reachable ∧ r.Quiet ∧ r.routeAt? 0 = some route ∧
      (∀ p ∈ route.patterns, (own p.2).lookFree = true) ∧ route.Fits [("p", "b")] ∧
      r.generate true route.name [("p", "b")] = .ok "/x/b" ∧ route.isMethod none = true ∧
      (∀ i other, ¬r.Shadows "/x/b" none 0 route i other) ∧
      Matcher.ofRouter r = .ok m ∧ m.matchPath "/x/b" none = none := by
  have hrouter : ∀ r, r = Router.afterAll {} [.add "/x/\x7bp:(a)\x7b0\x7db\x7d" .any (some "n")] →
      r.Quiet ∧ (∀ other ∈ r.routes.toList, other.isStatic = false) ∧
      (r.generate true "n" [("p", "b")]).toOption = some "/x/b" ∧
      (r.routeAt? 0).any (fun route => decide (route.name = "n" ∧
        (∀ p ∈ route.patterns, (own p.2).lookFree = true) ∧ route.Fits [("p", "b")])) = true ∧
      (Matcher.ofRouter r).toOption.any (fun m => (m.matchPath "/x/b" none).isNone) = true := by
    rintro r rfl
    decide +kernel
  obtain ⟨hquiet, hdynamic, hurl, hfirst, hmatch⟩ := hrouter _ rfl
  obtain ⟨route, hat, hroute⟩ := (Option.any_eq_true _ _).mp hfirst
  obtain ⟨hname, hlook, hfits⟩ := of_decide_eq_true hroute
  obtain ⟨m, hm, hnone⟩ := (Option.any_eq_true _ _).mp hmatch
  refine ⟨_, m, route, Router.reachable_afterAll _ _, hquiet, hat, hlook, hfits, ?_, rfl,
    Router.not_shadows_first hdynamic, ok_of_toOption hm, Option.isNone_iff_eq_none.mp hnone⟩
  rw [hname]
  exact ok_of_toOption hurl

end Routing
