import Routing.Proofs.Generation
import Routing.Proofs.SequentialScan

/-! Generating the path of a match from its values. -/
namespace Routing

def Match.values (x : Match) : List (String × String) :=
  x.route.parameterNames.filterMap fun name => x.parameters[name]?.map (name, ·)

namespace Router

/-- Values for the parameters and nothing else are all that is needed, and all that is used. -/
theorem generate_of_keys {r : Router} {name : String} {route : Route}
    (hget : r.getRoute name = .ok route) (hwell : route.WellFormed) {pairs : List (String × String)}
    (hkeys : pairs.map Prod.fst = route.parameterNames) :
    r.generate true name pairs = .ok (String.join (route.segments.map (Segment.fill fun name =>
      (pairs.lookup name).getD ""))) := by
  have hnodup : (pairs.map Prod.fst).Nodup := hkeys ▸ hwell.nodup
  have hreverse : (pairs.reverse.map Prod.fst).Nodup := by
    rw [List.map_reverse, List.nodup_reverse]
    exact hnodup
  have hused : ∀ key ∈ route.parameterNames,
      ∃ text, pairs.lookup key = some text ∧ route.used? pairs key = some text := by
    intro key hkey
    rw [← hkeys] at hkey
    obtain ⟨p, hp, rfl⟩ := List.mem_map.mp hkey
    refine ⟨p.2, Keyed.lookup_of_mem hnodup hp, ?_⟩
    unfold Route.used?
    rw [Keyed.lookup_of_mem hreverse (List.mem_reverse.mpr hp), Option.some_or]
  have hknown : ∀ p ∈ pairs, p.1 ∈ route.parameterNames :=
    fun p hp => hkeys ▸ List.mem_map_of_mem hp
  have hall : ∀ key ∈ route.parameterNames, (route.used? pairs key).isSome := by
    intro key hkey
    obtain ⟨text, -, htext⟩ := hused key hkey
    rw [htext]
    rfl
  rw [generate_eq_filled hget hwell hknown hall]
  unfold Route.filled
  congr 2
  refine List.map_congr_left fun s hs => ?_
  cases s with
  | literal text => rfl
  | param key =>
    obtain ⟨text, hlookup, htext⟩ := hused key (hwell.mem_parameterNames hs)
    simp [Segment.fill, hlookup, htext]

end Router

namespace Match

theorem getElem?_foldl_insert (pairs : List (String × String)) (values : Values)
    (h : (pairs.map Prod.fst).Nodup) (key : String) :
    (pairs.foldl (fun values (key, value) => values.insert key value) values)[key]? =
      (pairs.lookup key).or values[key]? := by
  induction pairs generalizing values with
  | nil => rfl
  | cons pair pairs ih =>
    obtain ⟨first, value⟩ := pair
    rw [List.map_cons, List.nodup_cons] at h
    rw [List.foldl_cons, ih _ h.2, List.lookup_cons, Std.TreeMap.getElem?_insert]
    by_cases he : key = first
    · have hnone : pairs.lookup key = none := by
        rw [List.lookup_eq_none_iff]
        intro p hp
        have hne : key ≠ p.1 := fun hkey => h.1 (List.mem_map.mpr ⟨p, hp, hkey.symm.trans he⟩)
        simpa using hne
      rw [hnone, he]
      simp
    · rw [beq_false_of_ne he]
      have hcompare : compare first key ≠ .eq := fun hc =>
        he (Std.LawfulEqCmp.eq_of_compare hc).symm
      rw [if_neg hcompare]

variable {route : Route} {texts : List String}

theorem map_fst_zip (hlength : texts.length = route.parameterCount) :
    (route.parameterNames.zip texts).map Prod.fst = route.parameterNames :=
  List.map_fst_zip (by rw [hlength, Route.parameterNames, List.length_map, Route.parameterCount])

/-- The values of a match are those that were extracted. -/
theorem values_of (hroute : route.WellFormed) (hlength : texts.length = route.parameterCount) :
    (Match.of route (route.parameterNames.zip texts)).values = route.parameterNames.zip texts := by
  have hnodup := hroute.nodup
  rw [← map_fst_zip hlength] at hnodup
  have hget : ∀ p ∈ route.parameterNames.zip texts,
      (Match.of route (route.parameterNames.zip texts)).parameters[p.1]? = some p.2 := by
    intro p hp
    have hfold := getElem?_foldl_insert (route.parameterNames.zip texts) route.defaults hnodup p.1
    rw [Keyed.lookup_of_mem hnodup hp, Option.some_or] at hfold
    exact hfold
  unfold values
  generalize (Match.of route (route.parameterNames.zip texts)).parameters = parameters at hget ⊢
  change (route.parameterNames.filterMap fun name => parameters[name]?.map (name, ·)) = _
  conv_lhs => rw [← map_fst_zip hlength]
  rw [List.filterMap_map]
  refine (List.filterMap_congr fun p hp => ?_).trans List.filterMap_some
  rw [Function.comp_apply, hget p hp]
  rfl

end Match

namespace Router

variable {r : Router} {m : Matcher} {path : String} {mask : Option MethodMask}

/-- Every match takes a value for each parameter of a registered route. -/
theorem exists_texts (hr : r.Reachable) (hm : Matcher.ofRouter r = .ok m) {x : Match}
    (hx : m.matchPath path mask = some x) :
    x.route ∈ r.routes.toList ∧ ∃ texts : List String,
      texts.length = x.route.parameterCount ∧ x = .of x.route (x.route.parameterNames.zip texts) := by
  have hconsistent := consistent_of_reachable hr
  cases hstatic : r.staticFor? path mask with
  | some route =>
    rw [Matcher.matchPath_static hconsistent hm hstatic] at hx
    cases hx
    have hroute := List.find?_some hstatic
    simp only [Bool.and_eq_true] at hroute
    have hnone : route.patterns = [] := List.isEmpty_iff.mp hroute.1.1
    refine ⟨List.mem_of_find?_eq_some hstatic, [], ?_, ?_⟩
    · change 0 = route.patterns.length
      rw [hnone]
      rfl
    · change Match.of route [] = Match.of route (route.parameterNames.zip [])
      rw [List.zip_nil_right]
  | none =>
    rw [Matcher.matchPath_dynamic hconsistent hm hstatic] at hx
    obtain ⟨found, hfound, hx⟩ := Option.bind_eq_some_iff.mp hx
    obtain ⟨route, hroute, rfl⟩ := Option.map_eq_some_iff.mp hx
    obtain ⟨member, hmember, hposition, hlength⟩ := Matcher.findDynamic?_mem hm hfound
    rw [← hposition, (mem_candidates.mp hmember).1, Option.some.injEq] at hroute
    subst hroute
    exact ⟨mem_routes (mem_candidates.mp hmember).1, found.2, hlength, rfl⟩

/-- Generating from the values of a match puts them between the literals of its route. -/
theorem generate_values (hr : r.Reachable) (hm : Matcher.ofRouter r = .ok m) {x : Match}
    (hx : m.matchPath path mask = some x) :
    r.generate true x.route.name x.values =
      .ok (String.join (x.route.segments.map (Segment.fill fun name =>
        (x.values.lookup name).getD ""))) := by
  obtain ⟨hroute, texts, hlength, he⟩ := exists_texts hr hm hx
  have hwell := hr.wellFormed x.route hroute
  have hvalues : x.values = x.route.parameterNames.zip texts := by
    conv_lhs => rw [he]
    exact Match.values_of hwell hlength
  have hget : r.getRoute x.route.name = .ok x.route :=
    (consistent_of_reachable hr).getRoute_eq_ok.mpr ⟨hroute, rfl⟩
  refine generate_of_keys hget hwell ?_
  rw [hvalues]
  exact Match.map_fst_zip hlength

/-- A static route that answers has the path itself. -/
theorem fill_static (hr : r.Reachable) {route : Route} (h : r.staticFor? path mask = some route)
    (text : String → String) : String.join (route.segments.map (Segment.fill text)) = path := by
  have hroute := List.find?_some h
  simp only [Bool.and_eq_true, beq_iff_eq] at hroute
  obtain ⟨⟨hstatic, hpath⟩, -⟩ := hroute
  rw [← hpath]
  exact (hr.wellFormed route (List.mem_of_find?_eq_some h)).filled_of_isStatic hstatic text

/-- The route that has to answer an undisturbed request hides no group itself. -/
theorem Undisturbed.hidden_eq_zero (h : r.Undisturbed path mask) (hstatic : r.staticFor? path mask = none)
    {member : Nat × Route} {values : List String}
    (hfirst : FirstToAccept (r.candidates mask) path member values) : member.2.hidden = 0 := by
  obtain ⟨table, -, piece, hpiece, hposition, hclear⟩ := h hstatic member values hfirst
  obtain ⟨other, ho, he⟩ := List.mem_map.mp hposition
  have hcandidate : other ∈ r.candidates table :=
    flatten_pieces r table ▸ List.mem_flatten_of_mem hpiece ho
  have hsame := Matcher.eq_of_position hfirst.mem hcandidate he
  exact hclear member (hsame ▸ ho) (Nat.le_refl _)

end Router

/-- The match gives the path back: from its values, which are those that the route itself takes from the
path, the path is generated, and they are what stands between the literals. -/
structure Match.Restores (x : Match) (r : Router) (path : String) : Prop where
  generated : r.generate true x.route.name x.values = .ok path
  interleaved : path = String.join (x.route.segments.map (Segment.fill fun name =>
    (x.values.lookup name).getD ""))
  consumed : x.route.isStatic = false → x.route.values? path = some (x.values.map Prod.snd)

namespace Router

variable {r : Router} {m : Matcher} {path : String} {mask : Option MethodMask}

theorem restores_of_undisturbed (hr : r.Reachable) (hquiet : r.Quiet)
    (hm : Matcher.ofRouter r = .ok m) {x : Match} (hx : m.matchPath path mask = some x)
    (h : r.Undisturbed path mask) : x.Restores r path := by
  have hgenerated := generate_values hr hm hx
  suffices hpath : path = String.join (x.route.segments.map (Segment.fill fun name =>
      (x.values.lookup name).getD "")) ∧
      (x.route.isStatic = false → x.route.values? path = some (x.values.map Prod.snd)) from
    ⟨hgenerated.trans (congrArg _ hpath.1.symm), hpath.1, hpath.2⟩
  have hscan := hx
  rw [(Matcher.matchPath_iff hr hquiet hm).mpr h] at hscan
  cases hstatic : r.staticFor? path mask with
  | some route =>
    rw [scan_static hstatic] at hscan
    cases hscan
    refine ⟨(fill_static hr hstatic _).symm, fun hdynamic => ?_⟩
    have hroute := List.find?_some hstatic
    simp only [Bool.and_eq_true] at hroute
    exact absurd (hdynamic.symm.trans hroute.1.1) Bool.false_ne_true
  | none =>
    have haccepts : ∃ member ∈ r.candidates mask, member.2.values? path ≠ none := by
      by_contra hnone
      push Not at hnone
      rw [scan_none hstatic hnone] at hscan
      cases hscan
    obtain ⟨member, texts, hfirst⟩ := exists_firstToAccept (r.ordered_candidates mask) haccepts
    obtain ⟨hat, hdynamic, -⟩ := mem_candidates.mp hfirst.mem
    have hsearch := hr.searchable hquiet (mem_routes hat) hdynamic
    have hhidden := h.hidden_eq_zero hstatic hfirst
    -- The values are those of the route by itself, and between its literals they make up the path.
    obtain ⟨hlength, hfill⟩ := hsearch.fill_values hhidden hfirst.accepts
    rw [scan_first hstatic hfirst] at hscan
    cases hscan
    have hvalues := Match.values_of hsearch.wellFormed hlength
    rw [hvalues]
    refine ⟨hfill, fun _ => ?_⟩
    rw [List.map_snd_zip]
    · exact hfirst.accepts
    · rw [hlength, Route.parameterNames, List.length_map, Route.parameterCount]

end Router

/-- A match gives the path back, as far as no group hides in the pattern of a parameter. Otherwise the
requests whose match is on the route that has to answer and gives the path back are those that hidden
groups leave alone. What is generated from a match is always the values between the literals of its
route. -/
theorem generate_matchPath {r : Router} (hr : r.Reachable) (hquiet : r.Quiet) {m : Matcher}
    (hm : Matcher.ofRouter r = .ok m) {path : String} {mask : Option MethodMask} {x : Match}
    (hx : m.matchPath path mask = some x) :
    ((∀ route ∈ r.routes.toList, route.hidden = 0) → x.Restores r path) ∧
    (r.Undisturbed path mask ↔
      (r.scan path mask).map Match.route = some x.route ∧ x.Restores r path) ∧
    r.generate true x.route.name x.values =
      .ok (String.join (x.route.segments.map (Segment.fill fun name =>
        (x.values.lookup name).getD ""))) := by
  refine ⟨fun hhidden => ?_, ⟨fun h => ?_, fun h => ?_⟩, Router.generate_values hr hm hx⟩
  · exact Router.restores_of_undisturbed hr hquiet hm hx
      (Matcher.undisturbed_of_hidden hhidden path mask)
  · refine ⟨?_, Router.restores_of_undisturbed hr hquiet hm hx h⟩
    rw [← (Matcher.matchPath_iff hr hquiet hm).mpr h, hx]
    rfl
  · exact Matcher.undisturbed_of_route hr hquiet hm hx h.1

theorem generate_matchPath_number :
    let r := Router.afterAll {} [.add "/users/\x7bid:\\d+\x7d/posts" .get (some "posts")]
    ∃ m x, Matcher.ofRouter r = .ok m ∧ m.matchPath "/users/42/posts" (some .get) = some x ∧
      x.Restores r "/users/42/posts" := by
  intro r
  have hmatch : (Matcher.ofRouter r).toOption.map
      (fun m => (m.matchPath "/users/42/posts" (some .get)).isSome) = some true := by
    decide +kernel
  obtain ⟨m, hm, hsome⟩ := Option.map_eq_some_iff.mp hmatch
  obtain ⟨x, hx⟩ := Option.isSome_iff_exists.mp hsome
  have hok := ok_of_toOption hm
  have hquiet : r.Quiet := by decide +kernel
  have hhidden : ∀ route ∈ r.routes.toList, route.hidden = 0 := by decide +kernel
  exact ⟨m, x, hok, hx, (generate_matchPath (Router.reachable_afterAll _ _) hquiet hok hx).1 hhidden⟩

/-- Two groups that are repeated zero times make the next route answer, with no text for its
parameter. -/
theorem generate_matchPath_ne :
    ∃ r m x, r.Reachable ∧ r.Quiet ∧ Matcher.ofRouter r = .ok m ∧
      m.matchPath "/a/x" none = some x ∧ x.route.name = "second" ∧
      r.generate true x.route.name x.values = .ok "/b/" := by
  have hmatch : (Matcher.ofRouter (Router.afterAll {}
      [.add "/a/\x7bp:x(y)\x7b0\x7d(y)\x7b0\x7d\x7d" .any (some "first"),
        .add "/b/\x7bq\x7d" .any (some "second")])).toOption.bind
      (fun m => (m.matchPath "/a/x" none).map fun x =>
        (x.route.name, (m.router.generate true x.route.name x.values).toOption)) =
      some ("second", some "/b/") := by
    decide +kernel
  obtain ⟨m, hm, hfound⟩ := Option.bind_eq_some_iff.mp hmatch
  obtain ⟨x, hx, hfacts⟩ := Option.map_eq_some_iff.mp hfound
  have hok := ok_of_toOption hm
  rw [(Matcher.ofRouter_eq_ok hok).1, Prod.mk.injEq] at hfacts
  exact ⟨_, m, x, Router.reachable_afterAll _ _, by decide +kernel, hok, hx, hfacts.1,
    ok_of_toOption hfacts.2⟩

end Routing
