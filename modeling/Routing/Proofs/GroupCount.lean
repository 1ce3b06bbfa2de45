import Routing.Proofs.GroupLayout

/-! The groups of accepted routes: they are the parameters exactly as long as every pattern of a
parameter is one group in parentheses and nothing else. -/
namespace Routing

open Pattern

namespace Route

/-- Routes as templates and changes give them. -/
inductive Accepted : Route → Prop
  | parsed {defaultPattern template : String} {method : Option MethodMask} {r : Route}
    (h : parse defaultPattern template method = .ok r) : Accepted r
  | changed {r r' : Route} (hr : Accepted r) (change : RouteChange) (h : change.apply r = .ok r') :
    Accepted r'

/-- The groups of the regular expression are the parameters: there is one for each, in their order and
around the pattern of the parameter, and no other one, neither inside them nor elsewhere. -/
structure GroupsAreParameters (r : Route) (p : Pattern) : Prop where
  expr : p.expr = r.anchoredExpr
  groups : r.parts.filterMap Expr.group? = r.patterns.map fun q => own q.2
  flat : ∀ q ∈ r.patterns, (own q.2).slots = 0
  slots : p.expr.slots = r.parameterCount
  count : p.groupCount = r.parameterCount

theorem Accepted.wellFormed {r : Route} (h : r.Accepted) : r.WellFormed := by
  induction h with
  | parsed h => exact (parse_ok h).2.2.2.2.2
  | changed _ change h ih => exact RouteChange.apply_wellFormed ih h

theorem Accepted.searchable {r : Route} (hr : r.Accepted) (hdynamic : r.isStatic = false)
    (hself : ∀ p ∈ r.patterns, SelfContained p.2) : r.Searchable ∧ r.hidden = 0 := by
  have hwell := hr.wellFormed
  have henc : r.Enclosed := by
    intro p hp
    obtain ⟨compiled, hcompiled, _⟩ := validatePattern_ok (hwell.valid p hp)
    exact (hself p hp).encloses hcompiled
  exact ⟨⟨hwell, hdynamic, henc⟩,
    hidden_eq_zero.mpr fun p hp => (henc p hp).selfContained_iff.mp (hself p hp)⟩

theorem Accepted.groupsAreParameters {r : Route} (hr : r.Accepted)
    (hdynamic : r.isStatic = false) (hself : ∀ p ∈ r.patterns, SelfContained p.2) :
    ∃ regex, r.regex = some regex ∧ r.GroupsAreParameters regex.anchored := by
  obtain ⟨hsearch, hhidden⟩ := hr.searchable hdynamic hself
  have hwell := hsearch.wellFormed
  obtain ⟨regex, hregex, _, hexpr⟩ := hsearch.regex_expr
  have hslots : r.anchoredExpr.slots = r.parameterCount := by
    rw [hwell.slots_anchoredExpr, hhidden, Nat.add_zero]
  refine ⟨regex, hregex, hexpr, hwell.groups_parts, hidden_eq_zero.mp hhidden, ?_, ?_⟩
  · rw [hexpr, hslots]
  · unfold groupCount
    rw [hexpr, hwell.live_anchoredExpr hhidden, hslots]

/-- A route of two parameters, with a given pattern and a line feed. -/
theorem exists_pair {pattern : String} {p : Pattern} {e : Expr} (hp : compile? pattern = some p)
    (hcount : p.groupCount = 0)
    (he : Expr.parse? ('^' :: '(' :: pattern.toList ++ [')', '(', '\n', ')', '$']) = some e) :
    ∃ (r : Route) (regex : RouteRegex), r.Accepted ∧ r.patterns = [("a", pattern), ("b", "\n")] ∧
      r.regex = some regex ∧ regex.anchored.expr = e := by
  have hparse : (parse "\n" "\x7ba\x7d\x7bb\x7d" none).toOption.map
      (fun r => (r.segments, r.patterns)) =
        some ([.param "a", .param "b"], [("a", "\n"), ("b", "\n")]) := by
    decide +kernel
  obtain ⟨r, hr, hparts⟩ := Option.map_eq_some_iff.mp hparse
  obtain ⟨hsegments, hpatterns⟩ := Prod.mk.inj hparts
  have hok := ok_of_toOption hr
  have hname : "a" ∈ r.parameterNames := by
    rw [parameterNames, hpatterns]
    exact List.mem_cons_self
  have hvalid : validatePattern "a" pattern = .ok () := by
    unfold validatePattern
    rw [hp]
    exact if_pos hcount
  have hpairs : respecified r.patterns "a" pattern = [("a", pattern), ("b", "\n")] := by
    rw [hpatterns]
    rfl
  have htext : ("^" ++ spliced r.segments [("a", pattern), ("b", "\n")] ++ "$").toList =
      '^' :: '(' :: pattern.toList ++ [')', '(', '\n', ')', '$'] := by
    have hlookup : [("a", pattern), ("b", "\n")].lookup "b" = some "\n" := rfl
    rw [hsegments]
    simp [spliced, hlookup]
  have hregex : compileRegex r.segments (respecified r.patterns "a" pattern) =
      .ok (some ⟨spliced r.segments [("a", pattern), ("b", "\n")],
        ⟨"^" ++ spliced r.segments [("a", pattern), ("b", "\n")] ++ "$", e⟩⟩) := by
    rw [hpairs]
    simp only [compileRegex, compile?, htext, he]
    rfl
  have hspecify := specify_eq_ok.mpr (.inr ⟨hname, hvalid, _, hregex, rfl⟩)
  exact ⟨_, _, .changed (.parsed hok) (.specify "a" pattern) hspecify, hpairs, rfl, rfl⟩

/-- A line feed in parentheses. -/
theorem adds_lineFeed : Reader.Adds ['(', '\n', ')'] [] [.group (.chars (.single '\n'))] := by
  have hown : own "\n" = .chars (.single '\n') := by decide
  rw [← hown]
  exact adds_of_quiet "\n" (by decide) (by decide) (by decide)

/-- Every other pattern that is valid by itself gives some route a wrong number of groups. -/
theorem exists_of_not_selfContained {name pattern : String}
    (hvalid : validatePattern name pattern = .ok ()) (hself : ¬SelfContained pattern) :
    ∃ (r : Route) (regex : RouteRegex), r.Accepted ∧ r.patterns = [("a", pattern), ("b", "\n")] ∧
      r.regex = some regex ∧ regex.anchored.groupCount ≠ r.parameterCount := by
  obtain ⟨p, hp, hcount⟩ := validatePattern_ok hvalid
  have hlast : (own pattern).lastGroup = 0 := by
    obtain ⟨_, _, _, _, hown⟩ := compile?_read hp
    rw [hown]
    exact hcount
  have hwrong {es : List Expr}
      (hparse : Expr.parse? ('^' :: '(' :: pattern.toList ++ [')', '(', '\n', ')', '$']) =
        some (.seqAll es)) (hes : (Expr.seqAll es).lastGroup ≠ 2) :
      ∃ (r : Route) (regex : RouteRegex), r.Accepted ∧ r.patterns = [("a", pattern), ("b", "\n")] ∧
        r.regex = some regex ∧ regex.anchored.groupCount ≠ r.parameterCount := by
    obtain ⟨r, regex, hr, hpatterns, hregex, hexpr⟩ := exists_pair hp hcount hparse
    refine ⟨r, regex, hr, hpatterns, hregex, ?_⟩
    unfold groupCount parameterCount
    rw [hexpr, hpatterns]
    exact hes
  rcases adds_or_swallows hp with hadds | ⟨r, m, hm, hread, houter, hcurrent, _, hpasses⟩
  · -- The group of the line feed comes behind the hidden ones, and a match reaches it.
    have henc := encloses_of_adds hp hadds
    have hslots : (own pattern).slots ≠ 0 := fun hnone => hself (henc.selfContained_iff.mpr hnone)
    have hnodup := nodup_groupNames pattern
    have hall := adds_anchored (hadds.append adds_lineFeed)
    have htext : '^' :: ('(' :: pattern.toList ++ [')'] ++ ['(', '\n', ')']) ++ ['$'] =
        '^' :: '(' :: pattern.toList ++ [')', '(', '\n', ')', '$'] := by simp
    rw [htext] at hall
    refine hwrong (hall.parse?_eq_some.mpr ⟨hnodup, rfl⟩) ?_
    simp [Expr.seqAll, Expr.lastGroup, Expr.slots]
    exact hslots
  · -- A comment swallows the parentheses between the two patterns, and the line feed ends it.
    have hadds := Reader.adds_group (s := ['(', '\n', ')']) hread hm houter hpasses fun t => rfl
    have hall := adds_anchored hadds
    have htext : '^' :: ('(' :: pattern.toList ++ ')' :: ['(', '\n', ')']) ++ ['$'] =
        '^' :: '(' :: pattern.toList ++ [')', '(', '\n', ')', '$'] := by simp
    have hnodup := (Reader.read_grows hread).nodup List.nodup_nil
    rw [htext] at hall
    refine hwrong (hall.parse?_eq_some.mpr ⟨hnodup, rfl⟩) ?_
    simp [Expr.seqAll, Expr.lastGroup, Expr.slots, hcurrent, hlast]

end Route

namespace Chunk

theorem compile_groups {members : List (Nat × Route)} (hne : members ≠ [])
    (hmembers : ∀ member ∈ members, member.2.Accepted ∧ member.2.isStatic = false ∧
      ∀ p ∈ member.2.patterns, SelfContained p.2) :
    ∃ c, compile members = .ok c ∧ c.pattern.expr = combinedExpr members ∧
      ∀ member ∈ members, (alternativeExpr c.width member.2).slots = c.width := by
  have hall : ∀ member ∈ members, member.2.Searchable ∧ member.2.hidden = 0 := by
    intro member hm
    obtain ⟨haccepted, hdynamic, hself⟩ := hmembers member hm
    exact haccepted.searchable hdynamic hself
  have hsearch : ∀ member ∈ members, member.2.Searchable := fun member hm => (hall member hm).1
  obtain ⟨c, hc⟩ := compile_of_hidden hne hsearch fun member hm => (hall member hm).2
  have hexpr := compile_expr hne hsearch hc
  obtain ⟨p, _, rfl⟩ := compile_eq_ok hc
  refine ⟨_, hc, hexpr, fun member hm => ?_⟩
  rw [slots_alternativeExpr (hsearch member hm).wellFormed (lt_widthOf hm), (hall member hm).2,
    Nat.add_zero]

end Chunk

/-- A pattern that passes the check is self-contained exactly if it can be let in: if, with no other
patterns than it and self-contained ones, the groups of every accepted route are its parameters, and the
alternatives of every chunk all take as many groups as the chunk has for each. -/
theorem selfContained_iff_groups {name pattern : String}
    (hvalid : Route.validatePattern name pattern = .ok ()) :
    SelfContained pattern ↔
      (∀ r : Route, r.Accepted → r.isStatic = false →
        (∀ p ∈ r.patterns, p.2 = pattern ∨ SelfContained p.2) →
        ∃ regex, r.regex = some regex ∧ r.GroupsAreParameters regex.anchored) ∧
      ∀ members : List (Nat × Route), members ≠ [] → (∀ member ∈ members, member.2.Accepted ∧
          member.2.isStatic = false ∧ ∀ p ∈ member.2.patterns, p.2 = pattern ∨ SelfContained p.2) →
        ∃ c, Chunk.compile members = .ok c ∧ c.pattern.expr = Chunk.combinedExpr members ∧
          ∀ member ∈ members, (Chunk.alternativeExpr c.width member.2).slots = c.width := by
  constructor
  · intro hself
    have hall : ∀ p : String × String, p.2 = pattern ∨ SelfContained p.2 → SelfContained p.2 := by
      rintro p (he | hp)
      · exact he ▸ hself
      · exact hp
    refine ⟨fun r hr hdynamic hpatterns => ?_, fun members hne hmembers => ?_⟩
    · exact hr.groupsAreParameters hdynamic fun p hp => hall p (hpatterns p hp)
    · refine Chunk.compile_groups hne fun member hm => ?_
      obtain ⟨haccepted, hdynamic, hpatterns⟩ := hmembers member hm
      exact ⟨haccepted, hdynamic, fun p hp => hall p (hpatterns p hp)⟩
  · rintro ⟨hroutes, -⟩
    by_contra hself
    obtain ⟨r, regex, hr, hpatterns, hregex, hcount⟩ :=
      Route.exists_of_not_selfContained hvalid hself
    have hdynamic : r.isStatic = false := by
      rw [Route.isStatic, hpatterns]
      rfl
    have hlineFeed : SelfContained "\n" := by decide
    have honly : ∀ p ∈ r.patterns, p.2 = pattern ∨ SelfContained p.2 := by
      rw [hpatterns]
      simp [hlineFeed]
    obtain ⟨regex', hregex', hgroups⟩ := hroutes r hr hdynamic honly
    rw [hregex, Option.some.injEq] at hregex'
    exact hcount (hregex' ▸ hgroups.count)

theorem selfContained_iff_groups_id :
    ∃ (r : Route) (regex : RouteRegex),
      Route.parse "[^/]+" "/users/\x7bid:\\d+\x7d" none = .ok r ∧ r.regex = some regex ∧
        r.GroupsAreParameters regex.anchored := by
  have hparse : (Route.parse "[^/]+" "/users/\x7bid:\\d+\x7d" none).toOption.map
      (fun r => r.patterns) = some [("id", "\\d+")] := by
    decide +kernel
  obtain ⟨r, hr, hpatterns⟩ := Option.map_eq_some_iff.mp hparse
  have hok := ok_of_toOption hr
  have hdynamic : r.isStatic = false := by
    rw [Route.isStatic, hpatterns]
    rfl
  have hvalid : Route.validatePattern "id" "\\d+" = .ok () :=
    (Route.parse_ok hok).2.2.2.2.2.valid _ (hpatterns ▸ List.mem_cons_self)
  have hself : SelfContained "\\d+" := by decide +kernel
  have honly : ∀ p ∈ r.patterns, p.2 = "\\d+" ∨ SelfContained p.2 := by
    rw [hpatterns]
    simp
  obtain ⟨regex, hregex, hgroups⟩ :=
    ((selfContained_iff_groups hvalid).mp hself).1 r (.parsed hok) hdynamic honly
  exact ⟨r, regex, hok, hregex, hgroups⟩

/-- A group that is repeated zero times passes the check of patterns, and takes the group number of the
next parameter. -/
theorem groups_exceed_parameters :
    ∃ (r : Route) (regex : RouteRegex),
      Route.parse "[^/]+" "/x/\x7bp:(a)\x7b0\x7db\x7d/\x7bq\x7d" none = .ok r ∧
        r.isStatic = false ∧ r.regex = some regex ∧ regex.anchored.groupCount = 3 ∧
        r.parameterCount = 2 ∧ r.captures? "/x/b/c" = some [some "b", none, some "c"] := by
  have hparse : (Route.parse "[^/]+" "/x/\x7bp:(a)\x7b0\x7db\x7d/\x7bq\x7d" none).toOption.map
      (fun r => (r.isStatic, r.parameterCount, r.regex.map fun regex => regex.anchored.groupCount)) =
        some (false, 2, some 3) := by
    decide +kernel
  obtain ⟨r, hr, hfacts⟩ := Option.map_eq_some_iff.mp hparse
  simp only [Prod.mk.injEq] at hfacts
  obtain ⟨hstatic, hcount, hregex⟩ := hfacts
  obtain ⟨regex, hregex, hgroups⟩ := Option.map_eq_some_iff.mp hregex
  have hcaptures : (Route.parse "[^/]+" "/x/\x7bp:(a)\x7b0\x7db\x7d/\x7bq\x7d" none).toOption.map
      (fun r => r.captures? "/x/b/c") = some (some [some "b", none, some "c"]) := by
    decide +kernel
  rw [hr, Option.map_some, Option.some.injEq] at hcaptures
  exact ⟨r, regex, ok_of_toOption hr, hstatic, hregex, hgroups, hcount, hcaptures⟩

end Routing
