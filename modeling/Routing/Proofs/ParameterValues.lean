import Routing.Proofs.Candidates
import Routing.Proofs.Generation

/-! Where the values of parameters come from when a path is generated: every parameter is resolved, or all
that cannot be are reported, and the order of the given pairs shows only in the query. -/
namespace Routing

namespace Route

/-- What a parameter is given: the last of its values, or the default if there is none. -/
inductive Resolves (r : Route) (pairs : List (String × String)) (key : String) : String → Prop
  | given {value : String} (last : Keyed.Last pairs key value) : r.Resolves pairs key value
  | default {value : String} (absent : key ∉ pairs.map Prod.fst)
    (default : r.defaults[key]? = some value) : r.Resolves pairs key value

/-- The two lists give every key the same value in the end, and the keys that are no parameters come first
in the same order. -/
structure Agrees (r : Route) (pairs others : List (String × String)) : Prop where
  last : ∀ key value, Keyed.Last pairs key value ↔ Keyed.Last others key value
  order : ∀ key ∈ pairs.map Prod.fst, ∀ other ∈ pairs.map Prod.fst,
    key ∉ r.parameterNames → other ∉ r.parameterNames →
      ((pairs.map Prod.fst).idxOf key < (pairs.map Prod.fst).idxOf other ↔
        (others.map Prod.fst).idxOf key < (others.map Prod.fst).idxOf other)

variable {r : Route} {pairs others : List (String × String)} {key value : String}

theorem used?_eq_some : r.used? pairs key = some value ↔ r.Resolves pairs key value := by
  unfold used?
  constructor
  · intro h
    cases hgiven : pairs.reverse.lookup key with
    | some last =>
      rw [hgiven] at h
      cases h
      exact .given (Keyed.lookup_reverse_eq_some.mp hgiven)
    | none =>
      rw [hgiven] at h
      exact .default ((Keyed.lookup_reverse_eq_none pairs key).mp hgiven) h
  · intro h
    cases h with
    | given last =>
      rw [Keyed.lookup_reverse_eq_some.mpr last]
      rfl
    | default absent default =>
      rw [(Keyed.lookup_reverse_eq_none pairs key).mpr absent]
      exact default

theorem used?_eq_none :
    r.used? pairs key = none ↔ key ∉ pairs.map Prod.fst ∧ key ∉ r.defaults := by
  unfold used?
  rw [Option.or_eq_none_iff, Keyed.lookup_reverse_eq_none]
  simp

theorem WellFormed.mem_parameterNames_iff (hr : r.WellFormed) :
    key ∈ r.parameterNames ↔ .param key ∈ r.segments := by
  constructor
  · intro hkey
    rw [← hr.names] at hkey
    obtain ⟨s, hs, hname⟩ := List.mem_filterMap.mp hkey
    cases s with
    | literal text => cases hname
    | param name =>
      cases hname
      exact hs
  · exact hr.mem_parameterNames

theorem WellFormed.mem_missing (hr : r.WellFormed) :
    key ∈ r.missing pairs ↔
      .param key ∈ r.segments ∧ key ∉ pairs.map Prod.fst ∧ key ∉ r.defaults := by
  unfold missing
  rw [List.mem_filter, Option.isNone_iff_eq_none, used?_eq_none, hr.mem_parameterNames_iff]

/-- Keys without repetitions stand in the order in which they come first. -/
theorem pairwise_eraseDups (keys : List String) :
    keys.eraseDups.Pairwise fun a b => keys.idxOf a < keys.idxOf b := by
  induction keys using List.reverseRecOn with
  | nil => exact .nil
  | append_singleton keys key ih =>
    rw [List.eraseDups_append]
    have hold : keys.eraseDups.Pairwise fun a b =>
        (keys ++ [key]).idxOf a < (keys ++ [key]).idxOf b := by
      apply ih.imp_of_mem
      intro a b ha hb hlt
      rw [List.idxOf_append_of_mem (List.mem_eraseDups.mp ha),
        List.idxOf_append_of_mem (List.mem_eraseDups.mp hb)]
      exact hlt
    by_cases hmem : key ∈ keys
    · have hnone : [key].removeAll keys = [] := by simp [List.removeAll, hmem]
      rw [hnone, List.eraseDups_nil, List.append_nil]
      exact hold
    · have hnew : ([key].removeAll keys).eraseDups = [key] := by
        simp [List.removeAll, hmem, List.eraseDups_cons]
      rw [hnew, List.pairwise_append]
      refine ⟨hold, List.pairwise_singleton _ key, ?_⟩
      intro a ha b hb
      rw [List.mem_singleton.mp hb, List.idxOf_append_of_mem (List.mem_eraseDups.mp ha),
        List.idxOf_append_of_notMem hmem]
      have hlt := List.idxOf_lt_length_of_mem (List.mem_eraseDups.mp ha)
      omega

theorem Agrees.lookup_reverse (h : r.Agrees pairs others) (key : String) :
    others.reverse.lookup key = pairs.reverse.lookup key := by
  apply Option.ext
  intro value
  rw [Keyed.lookup_reverse_eq_some, Keyed.lookup_reverse_eq_some]
  exact (h.last key value).symm

theorem Agrees.mem_keys (h : r.Agrees pairs others) (key : String) :
    key ∈ others.map Prod.fst ↔ key ∈ pairs.map Prod.fst := by
  have hnone := congrArg (· = none) (h.lookup_reverse key)
  simp only [Keyed.lookup_reverse_eq_none, eq_iff_iff] at hnone
  exact not_iff_not.mp hnone

/-- Keys in the order in which they come first are determined by that order. -/
theorem Agrees.extras (h : r.Agrees pairs others) : r.extras others = r.extras pairs := by
  let rank (a b : String) : Prop := (pairs.map Prod.fst).idxOf a < (pairs.map Prod.fst).idxOf b
  have hantisymm : Std.Antisymm rank := ⟨fun a b hab hba => absurd hab (Nat.lt_asymm hba)⟩
  have hirrefl : Std.Irrefl rank := ⟨fun a => Nat.lt_irrefl _⟩
  have hhere : ((pairs.map Prod.fst).eraseDups.filter
      fun key => !r.parameterNames.contains key).Pairwise rank :=
    (pairwise_eraseDups _).filter _
  have hthere : ((others.map Prod.fst).eraseDups.filter
      fun key => !r.parameterNames.contains key).Pairwise rank := by
    apply ((pairwise_eraseDups (others.map Prod.fst)).filter _).imp_of_mem
    intro a b ha hb hlt
    obtain ⟨ha, hother⟩ := List.mem_filter.mp ha
    obtain ⟨hb, hother'⟩ := List.mem_filter.mp hb
    rw [List.mem_eraseDups, h.mem_keys] at ha hb
    exact (h.order a ha b hb (by simpa using hother) (by simpa using hother')).mpr hlt
  have hkeys : (others.map Prod.fst).eraseDups.filter (fun key => !r.parameterNames.contains key) =
      (pairs.map Prod.fst).eraseDups.filter fun key => !r.parameterNames.contains key := by
    apply hthere.eq_of_mem_iff hhere
    intro key
    rw [List.mem_filter, List.mem_filter, List.mem_eraseDups, List.mem_eraseDups, h.mem_keys]
  unfold Route.extras
  rw [hkeys]
  apply List.map_congr_left
  intro key _
  rw [h.lookup_reverse]

theorem Agrees.used? (h : r.Agrees pairs others) : r.used? others = r.used? pairs := by
  funext key
  unfold Route.used?
  rw [h.lookup_reverse]

theorem Agrees.filled (h : r.Agrees pairs others) : r.filled others = r.filled pairs := by
  unfold Route.filled
  rw [h.used?]

theorem Agrees.missing (h : r.Agrees pairs others) : r.missing others = r.missing pairs := by
  unfold Route.missing
  rw [h.used?]

end Route

namespace Router

variable {r : Router} {name : String} {route : Route} {pairs : List (String × String)}

theorem Consistent.getRoute_eq_error (hr : r.Consistent)
    (h : ∀ route ∈ r.routes.toList, route.name ≠ name) :
    r.getRoute name = .error (.routeNotFound name) := by
  unfold getRoute
  cases hposition : r.names[name]? with
  | none => rfl
  | some i =>
    obtain ⟨route, hat, hname⟩ := (hr.names name i).mp hposition
    exact absurd hname (h route (Array.mem_toList_iff.mpr (Array.mem_of_getElem? hat)))

theorem Reachable.generate_eq (hr : r.Reachable) (hroute : route ∈ r.routes.toList)
    (hname : route.name = name) (short : Bool) (pairs : List (String × String)) :
    r.generate short name pairs =
      if route.missing pairs = [] then
        .ok (assemble short (route.filled pairs) (route.extras pairs))
      else .error (.missingParameters name (route.missing pairs)) := by
  have hget := (consistent_of_reachable hr).getRoute_eq_ok.mpr ⟨hroute, hname⟩
  exact Router.generate_eq hget (hr.wellFormed route hroute) short pairs

theorem Reachable.generate_of_forall_ne (hr : r.Reachable)
    (h : ∀ route ∈ r.routes.toList, route.name ≠ name) (short : Bool)
    (pairs : List (String × String)) :
    r.generate short name pairs = .error (.routeNotFound name) := by
  unfold generate
  rw [(consistent_of_reachable hr).getRoute_eq_error h]
  rfl

theorem Reachable.generate_eq_routeNotFound (hr : r.Reachable) (short : Bool) :
    r.generate short name pairs = .error (.routeNotFound name) ↔
      ∀ route ∈ r.routes.toList, route.name ≠ name := by
  constructor
  · intro herror route hroute hname
    rw [hr.generate_eq hroute hname] at herror
    split_ifs at herror
    cases herror
  · intro h
    exact hr.generate_of_forall_ne h short pairs

theorem Reachable.generate_of_missing (hr : r.Reachable) (hroute : route ∈ r.routes.toList)
    (hname : route.name = name) (short : Bool)
    (h : ∃ key, .param key ∈ route.segments ∧ key ∉ pairs.map Prod.fst ∧ key ∉ route.defaults) :
    r.generate short name pairs = .error (.missingParameters name (route.missing pairs)) := by
  obtain ⟨key, hkey⟩ := h
  have hmem : key ∈ route.missing pairs := (hr.wellFormed route hroute).mem_missing.mpr hkey
  rw [hr.generate_eq hroute hname, if_neg (List.ne_nil_of_mem hmem)]

theorem Reachable.generate_of_resolved (hr : r.Reachable) (hroute : route ∈ r.routes.toList)
    (hname : route.name = name) (short : Bool)
    (h : ∀ key, .param key ∈ route.segments → key ∈ pairs.map Prod.fst ∨ key ∈ route.defaults) :
    ∃ value : String → String,
      (∀ key, .param key ∈ route.segments → route.Resolves pairs key (value key)) ∧
      r.generate short name pairs =
        .ok (assemble short (String.join (route.segments.map (Segment.fill value)))
          (route.extras pairs)) := by
  have hwell := hr.wellFormed route hroute
  have hused : ∀ key, .param key ∈ route.segments → (route.used? pairs key).isSome := by
    intro key hkey
    rw [Option.isSome_iff_ne_none, ne_eq, Route.used?_eq_none, not_and_or, not_not, not_not]
    exact h key hkey
  have hnone : route.missing pairs = [] := by
    rw [Route.missing_eq_nil]
    intro key hkey
    exact hused key (hwell.mem_parameterNames_iff.mp hkey)
  refine ⟨fun key => (route.used? pairs key).getD "", ?_, ?_⟩
  · intro key hkey
    obtain ⟨value, hvalue⟩ := Option.isSome_iff_exists.mp (hused key hkey)
    have hresolves := Route.used?_eq_some.mp hvalue
    simpa [hvalue] using hresolves
  · rw [hr.generate_eq hroute hname, if_pos hnone]
    rfl

theorem Reachable.generate_agrees (hr : r.Reachable) (short : Bool) {others : List (String × String)}
    (h : ∀ route ∈ r.routes.toList, route.name = name → route.Agrees pairs others) :
    r.generate short name others = r.generate short name pairs := by
  by_cases hnone : ∀ route ∈ r.routes.toList, route.name ≠ name
  · rw [hr.generate_of_forall_ne hnone, hr.generate_of_forall_ne hnone]
  · push Not at hnone
    obtain ⟨route, hroute, hname⟩ := hnone
    have hsame := h route hroute hname
    rw [hr.generate_eq hroute hname, hr.generate_eq hroute hname, hsame.missing, hsame.filled,
      hsame.extras]

/-- Generating the path of a name that is not registered fails with that name. For a route, either all its
parameters are resolved, and the path is its segments with the values in their places, or those without a
value are reported, each once and in their order. Pairs that agree in what they give in the end, and in the
order of what goes into the query, give the same result. -/
theorem generate_resolves (hr : r.Reachable) (short : Bool) (name : String)
    (pairs : List (String × String)) :
    (r.generate short name pairs = .error (.routeNotFound name) ↔
      ∀ route ∈ r.routes.toList, route.name ≠ name) ∧
    (∀ route ∈ r.routes.toList, route.name = name →
      ((∃ key, .param key ∈ route.segments ∧ key ∉ pairs.map Prod.fst ∧ key ∉ route.defaults) →
        ∃ names, r.generate short name pairs = .error (.missingParameters name names) ∧
          names.Nodup ∧ names.Sublist route.parameterNames ∧
          ∀ key, key ∈ names ↔
            .param key ∈ route.segments ∧ key ∉ pairs.map Prod.fst ∧ key ∉ route.defaults) ∧
      ((∀ key, .param key ∈ route.segments → key ∈ pairs.map Prod.fst ∨ key ∈ route.defaults) →
        ∃ value : String → String,
          (∀ key, .param key ∈ route.segments → route.Resolves pairs key (value key)) ∧
          r.generate short name pairs =
            .ok (assemble short (String.join (route.segments.map (Segment.fill value)))
              (route.extras pairs)))) ∧
    ∀ others, (∀ route ∈ r.routes.toList, route.name = name → route.Agrees pairs others) →
      r.generate short name others = r.generate short name pairs := by
  refine ⟨hr.generate_eq_routeNotFound short, ?_, fun others => hr.generate_agrees short⟩
  intro route hroute hname
  have hwell := hr.wellFormed route hroute
  constructor
  · intro hmissing
    refine ⟨route.missing pairs, hr.generate_of_missing hroute hname short hmissing, ?_,
      List.filter_sublist, fun key => hwell.mem_missing⟩
    exact hwell.nodup.filter _
  · exact hr.generate_of_resolved hroute hname short

/-- A value that looks like a parameter stays as it is, a key that is given twice has its last value, and
the pair for the query may stand anywhere. -/
theorem generate_resolves_list :
    let r := afterAll {} [.add "/\x7bkind\x7d/\x7bpage\x7d" .get (some "list"),
      .amend "list" (.set "page" "1")]
    let pairs := [("q", "x"), ("kind", "all"), ("kind", "\x7bpage\x7d")]
    let others := [("kind", "all"), ("kind", "\x7bpage\x7d"), ("q", "x")]
    r.generate true "list" pairs = .ok "/\x7bpage\x7d/1?q=x" ∧
      r.generate true "list" others = r.generate true "list" pairs ∧
      (∃ names, r.generate true "list" [("q", "x")] = .error (.missingParameters "list" names) ∧
        ∀ key, key ∈ names ↔ key = "kind") ∧
      r.generate true "page" pairs = .error (.routeNotFound "page") := by
  intro r pairs others
  have hr : r.Reachable := reachable_afterAll _ _
  have hfacts : r.routes.toList.map Route.name = ["list"] ∧ ∀ route ∈ r.routes.toList,
      route.segments = [.literal "/", .param "kind", .literal "/", .param "page"] ∧
        route.parameterNames = ["kind", "page"] ∧ "page" ∈ route.defaults ∧ "kind" ∉ route.defaults := by
    decide +kernel
  obtain ⟨hnames, hroutes⟩ := hfacts
  have hname : ∀ route ∈ r.routes.toList, route.name = "list" := by
    intro route hroute
    have hmem := List.mem_map_of_mem hroute (f := Route.name)
    rw [hnames, List.mem_singleton] at hmem
    exact hmem
  obtain ⟨route, hroute, -⟩ : ∃ route ∈ r.routes.toList, route.name = "list" := by
    rw [← List.mem_map, hnames]
    exact List.mem_singleton_self "list"
  obtain ⟨hsegments, -, hpage, hkind⟩ := hroutes route hroute
  refine ⟨by decide +kernel, ?_, ?_, ?_⟩
  · apply (generate_resolves hr true "list" pairs).2.2
    intro route hroute _
    constructor
    · intro key value
      rw [← Keyed.lookup_reverse_eq_some, ← Keyed.lookup_reverse_eq_some]
      by_cases hq : key = "q"
      · subst hq
        rfl
      · have hlookup : pairs.reverse.lookup key = others.reverse.lookup key := by
          simp [pairs, others, List.lookup_cons, beq_false_of_ne hq]
        rw [hlookup]
    · intro key hkey other hother hfree hfree'
      rw [(hroutes route hroute).2.1] at hfree hfree'
      have hq : key = "q" ∧ other = "q" := by
        simp only [pairs, List.map_cons, List.map_nil, List.mem_cons] at hkey hother hfree hfree'
        tauto
      rw [hq.1, hq.2, iff_of_false (Nat.lt_irrefl _) (Nat.lt_irrefl _)]
  · have hmissing := ((generate_resolves hr true "list" [("q", "x")]).2.1 route hroute
      (hname route hroute)).1
    obtain ⟨names, herror, -, -, hmem⟩ := hmissing ⟨"kind", by simp [hsegments], by decide, hkind⟩
    refine ⟨names, herror, fun key => ?_⟩
    rw [hmem, hsegments]
    constructor
    · rintro ⟨hparam, -, hdefault⟩
      simp at hparam
      rcases hparam with rfl | rfl
      · rfl
      · exact absurd hpage hdefault
    · rintro rfl
      exact ⟨by simp, by decide, hkind⟩
  · rw [(generate_resolves hr true "page" pairs).1]
    intro route hroute
    rw [hname route hroute]
    decide

end Router
end Routing
