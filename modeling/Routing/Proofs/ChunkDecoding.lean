import Routing.Proofs.GroupCount
import Routing.Proofs.Interleaving
import Routing.Proofs.TableLookup

/-! How the groups of a match tell the route of a chunk and its values, and that no access by a position
on the way there fails. -/
namespace Routing

open Pattern Pattern.Expr

namespace Pattern.Captures

/-- What groups with consecutive numbers hold, read off behind `n` others and before `later` ones. -/
theorem map_group?_shift (texts : List String) (n later : Nat) :
    ((List.range (n + texts.length + later)).map fun i =>
      (shift n ((List.range' 1 texts.length).zip (texts.map String.toList))).group? (i + 1)) =
      List.replicate n none ++ texts.map some ++ List.replicate later none := by
  have hbefore : ∀ i, i < n →
      (shift n ((List.range' 1 texts.length).zip (texts.map String.toList))).group? (i + 1) = none := by
    intro i hi
    refine group?_eq_none fun p hp => ?_
    obtain ⟨q, hq, rfl⟩ := List.mem_map.mp hp
    have hrange := List.mem_range'_1.mp (List.of_mem_zip hq).1
    dsimp only
    omega
  have hbehind : ∀ i, (shift n ((List.range' 1 texts.length).zip (texts.map String.toList))).group?
      (n + i + 1) = texts[i]? := by
    intro i
    rw [show n + i + 1 = 1 + i + n by omega, group?_shift, group?_zip]
  rw [Nat.add_assoc, List.range_add, List.map_append, List.map_map, List.append_assoc, List.range_add,
    List.map_append, List.map_map]
  congr 1
  · rw [List.eq_replicate_iff]
    refine ⟨by simp, fun group hgroup => ?_⟩
    obtain ⟨i, hi, rfl⟩ := List.mem_map.mp hgroup
    exact hbefore i (List.mem_range.mp hi)
  congr 1
  · refine List.ext_getElem (by simp) fun i hi hi' => ?_
    rw [List.length_map] at hi'
    rw [List.getElem_map, List.getElem_map, List.getElem_range]
    exact (hbehind i).trans (List.getElem?_eq_getElem hi')
  · rw [List.eq_replicate_iff]
    refine ⟨by simp, fun group hgroup => ?_⟩
    obtain ⟨i, -, rfl⟩ := List.mem_map.mp hgroup
    exact (hbehind _).trans (List.getElem?_eq_none (Nat.le_add_right _ i))

end Pattern.Captures

/-- The numbers of the groups that take part in a match. -/
def populated (groups : List (Option String)) : List Nat :=
  ((groups.zipIdx 1).filter (·.1.isSome)).map Prod.snd

/-- Groups that take part, between others that do not. -/
theorem populated_between (n : Nat) (texts : List String) (later : Nat) :
    populated (List.replicate n none ++ texts.map some ++ List.replicate later none) =
      List.range' (n + 1) texts.length := by
  have hnone (count start : Nat) : ((List.replicate count (none : Option String)).zipIdx start).filter
      (·.1.isSome) = [] := by
    rw [List.filter_eq_nil_iff]
    rintro ⟨group, number⟩ hmem
    have hgroup : group = none := List.eq_of_mem_replicate (List.fst_mem_of_mem_zipIdx hmem)
    rw [hgroup]
    exact Bool.false_ne_true
  have hsome : ((texts.map some).zipIdx (1 + n)).filter (·.1.isSome) = (texts.map some).zipIdx (1 + n) := by
    rw [List.filter_eq_self]
    rintro ⟨group, number⟩ hmem
    obtain ⟨text, -, rfl⟩ := List.mem_map.mp (List.fst_mem_of_mem_zipIdx hmem)
    rfl
  unfold populated
  rw [List.zipIdx_append, List.zipIdx_append, List.filter_append, List.filter_append, hnone, hnone,
    List.length_replicate, hsome, List.nil_append, List.append_nil, List.zipIdx_map_snd, List.length_map,
    Nat.add_comm]

theorem getElem?_between {texts : List String} {i : Nat} (n later : Nat) (hi : i < texts.length) :
    (List.replicate n none ++ texts.map some ++ List.replicate later none)[n + i]? =
      some texts[i]? := by
  have hlength : (List.replicate n (none : Option String)).length = n := List.length_replicate
  have hlt : i < (texts.map some).length := by rwa [List.length_map]
  rw [List.append_assoc, List.getElem?_append_right (by omega), hlength, Nat.add_sub_cancel_left,
    List.getElem?_append_left hlt, List.getElem?_map, List.getElem?_eq_getElem hi, Option.map_some]

namespace Chunk

/-- Every access by a position that reading a match takes is within bounds. -/
structure InBounds (c : Chunk) : Prop where
  entry : ∀ boundary place, c.boundaries.lookup boundary = some place → place < c.entries.length
  first : ∀ boundary place, c.boundaries.lookup boundary = some place → c.width ≤ boundary

/-- The groups of a match are those of the alternative at the place and no others: its parameters hold the
values of what is found, and the groups after them the empty text. The last one is the boundary of the place,
and counting back from it the values are read. -/
structure Decodes (c : Chunk) (path : String) (groups : List (Option String)) (place : Nat)
    (found : Nat × List String) : Prop where
  fits : found.2.length < c.width
  layout : ∃ later, groups = List.replicate (place * c.width) none ++
    (found.2 ++ List.replicate (c.width - found.2.length) "").map some ++ List.replicate later none
  populated : populated groups = List.range' (place * c.width + 1) c.width
  last : lastPopulated? groups = some ((place + 1) * c.width)
  boundary : c.boundaries.lookup ((place + 1) * c.width) = some place
  read : ∀ i < found.2.length, groups[(place + 1) * c.width + 1 - c.width + i - 1]? = some found.2[i]?
  found : c.find? path = some found

theorem compile_fields {members : List (Nat × Route)} {c : Chunk} (h : compile members = .ok c) :
    c.width = widthOf members ∧
      c.entries = members.map fun member => (member.1, member.2.parameterCount) := by
  obtain ⟨p, _, rfl⟩ := compile_eq_ok h
  exact ⟨rfl, rfl⟩

theorem compile_inBounds {members : List (Nat × Route)} {c : Chunk} (h : compile members = .ok c) :
    c.InBounds := by
  obtain ⟨hwidth, hentries⟩ := compile_fields h
  refine ⟨fun boundary place hlookup => ?_, fun boundary place hlookup => ?_⟩
  · rw [hentries, List.length_map]
    exact ((lookup_boundaries h).mp hlookup).1
  · rw [hwidth, ((lookup_boundaries h).mp hlookup).2]
    exact Nat.le_mul_of_pos_left _ (Nat.succ_pos place)

/-- The values, and the empty text in the groups after them. -/
theorem padded_values {width : Nat} {r : Route} {values : List String} (hhidden : r.hidden = 0)
    (hcount : values.length = r.parameterCount) :
    padded width r ((List.range' 1 values.length).zip (values.map String.toList)) =
      (List.range' 1 (values ++ List.replicate (width - values.length) "").length).zip
        ((values ++ List.replicate (width - values.length) "").map String.toList) := by
  have hempty (l : List Nat) : l.map (·, ([] : List Char)) =
      l.zip (List.replicate l.length "".toList) := by
    rw [← List.map_const', ← List.map_prod_left_eq_zip]
    rfl
  rw [List.length_append, List.length_replicate, ← List.range'_append_1, List.map_append,
    List.map_replicate, List.zip_append (by simp)]
  unfold padded
  rw [hhidden, Nat.add_zero, ← hcount, hempty, List.length_range']
section First

variable {before after : List (Nat × Route)} {member : Nat × Route} {c : Chunk} {path : String}
  {groups : List (Option String)}

/-- A match of a chunk is a match of one of its routes, and the first one counts. -/
theorem exists_first {members : List (Nat × Route)} (hne : members ≠ [])
    (hsearch : ∀ member ∈ members, member.2.Searchable) (h : compile members = .ok c)
    (hgroups : c.pattern.captures? path = some groups) :
    ∃ before member after values, members = before ++ member :: after ∧
      (∀ other ∈ before, other.2.values? path = none) ∧ member.2.values? path = some values := by
  cases hfind : members.find? fun member => (member.2.values? path).isSome with
  | none =>
    rw [List.find?_eq_none] at hfind
    have hnone : ∀ member ∈ members, member.2.values? path = none :=
      fun member hm => Option.not_isSome_iff_eq_none.mp (hfind member hm)
    rw [captures?_eq_none hne hsearch (compile_expr hne hsearch h) hnone] at hgroups
    cases hgroups
  | some member =>
    obtain ⟨haccepts, before, after, hsplit, hbefore⟩ := List.find?_eq_some_iff_append.mp hfind
    obtain ⟨values, hvalues⟩ := Option.isSome_iff_exists.mp haccepts
    refine ⟨before, member, after, values, hsplit, fun other ho => ?_, hvalues⟩
    simpa using hbefore other ho

variable {values : List String} (hsearch : ∀ other ∈ before ++ member :: after, other.2.Searchable)
  (h : compile (before ++ member :: after) = .ok c) (hgroups : c.pattern.captures? path = some groups)
  (hbefore : ∀ other ∈ before, other.2.values? path = none)
  (hvalues : member.2.values? path = some values)

include hsearch h hgroups hbefore hvalues

/-- The groups are those of the route, behind all numbers that the alternatives before it take. -/
theorem groups_first : ∃ captures, member.2.wholeMatch? path = some captures ∧
    groups = (List.range (taken c.width (before ++ member :: after))).map fun i =>
      ((padded c.width member.2 captures).shift (taken c.width before)).group? (i + 1) := by
  have hin : member ∈ before ++ member :: after := List.mem_append_right _ List.mem_cons_self
  have hexpr := compile_expr (List.ne_nil_of_mem hin) hsearch h
  obtain ⟨captures, hmember⟩ := (hsearch member hin).exists_captures hvalues
  have hfirst := captures?_first hsearch hexpr hbefore hmember
  rw [hgroups, Option.some.injEq, ← (compile_fields h).1] at hfirst
  exact ⟨captures, hmember, hfirst⟩

/-- All numbers up to the route, the hidden ones among them, stand up to the last group that takes part. -/
theorem lastPopulated?_of_first :
    lastPopulated? groups = some ((before.length + 1) * c.width +
      ((before ++ [member]).map fun other => other.2.hidden).sum) := by
  have hin : member ∈ before ++ member :: after := List.mem_append_right _ List.mem_cons_self
  have hwidth : member.2.parameterCount < c.width := (compile_fields h).1 ▸ lt_widthOf hin
  obtain ⟨captures, hmember, hfirst⟩ := groups_first hsearch h hgroups hbefore hvalues
  rw [hfirst, lastPopulated?_first (hsearch member hin).wellFormed hwidth hmember, taken_eq,
    List.length_append, List.length_singleton]

/-- Without hidden groups up to the route, its alternative alone takes part, with the values and the empty
text after them. -/
theorem layout_first (hclear : ∀ other ∈ before ++ [member], other.2.hidden = 0) :
    values.length < c.width ∧ ∃ later, groups = List.replicate (before.length * c.width) none ++
      (values ++ List.replicate (c.width - values.length) "").map some ++
        List.replicate later none := by
  have hin : member ∈ before ++ member :: after := List.mem_append_right _ List.mem_cons_self
  have hwidth : member.2.parameterCount < c.width := (compile_fields h).1 ▸ lt_widthOf hin
  obtain ⟨captures, hmember, hfirst⟩ := groups_first hsearch h hgroups hbefore hvalues
  rw [List.forall_mem_append, List.forall_mem_singleton] at hclear
  obtain ⟨texts, htexts, hcount, rfl, -⟩ := (hsearch member hin).exists_groups hclear.2 hmember
  rw [hvalues, Option.some.injEq] at htexts
  subst htexts
  rw [← hcount] at hwidth
  have htaken : taken c.width before = before.length * c.width := by
    rw [taken_eq, List.sum_eq_zero_iff_forall_eq_nat.mpr (List.forall_mem_map.mpr hclear.1),
      Nat.add_zero]
  have hall : taken c.width (before ++ member :: after) = before.length * c.width +
      (values ++ List.replicate (c.width - values.length) "").length + taken c.width after := by
    rw [List.append_cons, taken_append, taken_concat, htaken, hclear.2, List.length_append,
      List.length_replicate]
    omega
  rw [padded_values hclear.2 hcount, hall, htaken, Captures.map_group?_shift] at hfirst
  exact ⟨hwidth, _, hfirst⟩

/-- The match is read as that of the alternative exactly if nothing up to it hides. -/
theorem decodes_iff :
    c.Decodes path groups before.length (member.1, values) ↔
      ∀ other ∈ before ++ [member], other.2.hidden = 0 := by
  have hlast := lastPopulated?_of_first hsearch h hgroups hbefore hvalues
  have hsum : ((before ++ [member]).map fun other => other.2.hidden).sum = 0 ↔
      ∀ other ∈ before ++ [member], other.2.hidden = 0 := by
    rw [List.sum_eq_zero_iff_forall_eq_nat, List.forall_mem_map]
  constructor
  · intro hdecodes
    rw [hdecodes.last, Option.some.injEq, left_eq_add] at hlast
    exact hsum.mp hlast
  · intro hclear
    obtain ⟨hfits, later, hlayout⟩ := layout_first hsearch h hgroups hbefore hvalues hclear
    have hplace : c.boundaries.lookup ((before.length + 1) * c.width) = some before.length :=
      (lookup_boundaries h).mpr ⟨by simp, by rw [(compile_fields h).1]⟩
    rw [hsum.mpr hclear] at hlast
    refine ⟨hfits, ⟨later, hlayout⟩, ?_, hlast, hplace, ?_,
      find?_first hsearch h hbefore hvalues hclear⟩
    · rw [hlayout, populated_between, List.length_append, List.length_replicate,
        Nat.add_sub_cancel' hfits.le]
    · intro i hi
      have hindex : (before.length + 1) * c.width + 1 - c.width + i - 1 =
          before.length * c.width + i := by
        rw [Nat.add_one_mul]
        omega
      have hlt : i < (values ++ List.replicate (c.width - values.length) "").length :=
        Nat.lt_of_lt_of_le hi (by rw [List.length_append]; exact Nat.le_add_right _ _)
      rw [hindex, hlayout, getElem?_between _ _ hlt, List.getElem?_append_left hi]

/-- Hidden groups leave a match without an answer, unless they move its last group to the boundary of a
later route. -/
theorem isSome_find?_iff :
    (c.find? path).isSome ↔ ∃ n,
      ((before ++ [member]).map fun other => other.2.hidden).sum = n * c.width ∧
        before.length + n < (before ++ member :: after).length := by
  have hlast := lastPopulated?_of_first hsearch h hgroups hbefore hvalues
  have hfind : (c.find? path).isSome ↔ ∃ place, c.boundaries.lookup ((before.length + 1) * c.width +
      ((before ++ [member]).map fun other => other.2.hidden).sum) = some place := by
    rw [find?_eq h hgroups hlast, Option.isSome_bind, Option.any_eq_true]
    refine exists_congr fun place => and_iff_left_of_imp fun hplace => ?_
    rw [Option.isSome_map, List.getElem?_eq_getElem ((lookup_boundaries h).mp hplace).1]
    rfl
  rw [hfind]
  simp only [lookup_boundaries h, ← (compile_fields h).1]
  constructor
  · rintro ⟨place, hlt, hboundary⟩
    have hle : before.length ≤ place := by
      by_contra hgt
      have hmul := Nat.mul_le_mul_right c.width (show place + 1 ≤ before.length by omega)
      have hpos : 0 < c.width := by
        rw [(compile_fields h).1]
        exact Nat.succ_pos _
      rw [Nat.add_one_mul] at hboundary
      omega
    obtain ⟨n, rfl⟩ := Nat.exists_eq_add_of_le hle
    refine ⟨n, ?_, hlt⟩
    rw [Nat.add_right_comm, Nat.add_mul _ n] at hboundary
    exact Nat.add_left_cancel hboundary
  · rintro ⟨n, hsum, hlt⟩
    refine ⟨before.length + n, hlt, ?_⟩
    rw [hsum, ← Nat.add_mul, Nat.add_right_comm]

end First

/-- The last group of a match tells the route, as far as no group hides in the pattern of a parameter. The
boundaries are those of the alternatives. In every match, the groups are those of the alternative of the
first route that accepts the path, with its values, exactly if no group hides up to that route; then the
route is found. With hidden groups some route is found only if they take as many numbers as some later
alternatives. No access by a position ever fails: what is found is a route, with a value for each name. -/
theorem match_decodes {r : Router} (hr : r.Reachable) {members : List (Nat × Route)}
    (hne : members ≠ [])
    (hmembers : ∀ member ∈ members, member ∈ r.dynamicRoutes ∧ ∀ p ∈ member.2.patterns, Quiet p.2) :
    ((∀ member ∈ members, member.2.hidden = 0) → ∃ c, compile members = .ok c) ∧
    (∀ c, compile members = .ok c → c.InBounds ∧
      (∀ boundary place, c.boundaries.lookup boundary = some place ↔
        place < members.length ∧ boundary = (place + 1) * c.width) ∧
      ∀ path groups, c.pattern.captures? path = some groups →
        ∃ before member after values, members = before ++ member :: after ∧
          (∀ other ∈ before, other.2.values? path = none) ∧ member.2.values? path = some values ∧
          (c.Decodes path groups before.length (member.1, values) ↔
            ∀ other ∈ before ++ [member], other.2.hidden = 0) ∧
          ((c.find? path).isSome ↔ ∃ n,
            ((before ++ [member]).map fun other => other.2.hidden).sum = n * c.width ∧
              before.length + n < members.length)) ∧
    ∀ m, Matcher.ofRouter r = .ok m →
      (∀ table ∈ Router.tables, ∀ c ∈ m.tableFor table, c.InBounds) ∧
      ∀ path mask found, m.findDynamic? path mask = some found → ∃ route,
        r.routeAt? found.1 = some route ∧ found.2.length = route.parameterNames.length := by
  have hsearch : ∀ member ∈ members, member.2.Searchable := by
    intro member hm
    obtain ⟨hin, hquiet⟩ := hmembers member hm
    obtain ⟨hat, hdynamic⟩ := Router.mem_dynamicRoutes.mp hin
    have hwell := hr.wellFormed member.2 (Router.mem_routes hat)
    exact ⟨hwell, hdynamic, hwell.sound.encloses hquiet⟩
  refine ⟨compile_of_hidden hne hsearch,
    fun c hc => ⟨compile_inBounds hc, fun boundary place => ?_, fun path groups hgroups => ?_⟩,
    fun m hm => ⟨fun table htable c hin => ?_, fun path mask found hfound => ?_⟩⟩
  · exact (compile_fields hc).1 ▸ lookup_boundaries hc
  · obtain ⟨before, member, after, values, rfl, hbefore, hvalues⟩ := exists_first hne hsearch hc hgroups
    exact ⟨before, member, after, values, rfl, hbefore, hvalues,
      decodes_iff hsearch hc hgroups hbefore hvalues, isSome_find?_iff hsearch hc hgroups hbefore hvalues⟩
  · obtain ⟨piece, -, hpiece⟩ := exists_of_mem_mapM ((Matcher.ofRouter_eq_ok hm).2 table htable) hin
    exact compile_inBounds hpiece
  · obtain ⟨member, hmember, he, hlength⟩ := Matcher.findDynamic?_mem hm hfound
    obtain ⟨hat, -, -⟩ := Router.mem_candidates.mp hmember
    refine ⟨member.2, he ▸ hat, hlength.trans ?_⟩
    rw [Route.parameterNames, List.length_map, Route.parameterCount]

/-- Three routes of different widths in one chunk. -/
theorem match_decodes_widths :
    let r := Router.afterAll {} [.add "/a/\x7bx\x7d" .get (some "one"),
      .add "/b/\x7bx\x7d/\x7by\x7d/\x7bz\x7d" .get (some "three"),
      .add "/d/\x7bx\x7d/\x7by\x7d" .get (some "two")]
    r.Reachable ∧ r.dynamicRoutes ≠ [] ∧ r.Quiet ∧ (∀ member ∈ r.dynamicRoutes, member.2.hidden = 0) ∧
      ∃ c groups, compile r.dynamicRoutes = .ok c ∧ c.pattern.captures? "/d/p/q" = some groups ∧
        c.Decodes "/d/p/q" groups 2 (2, ["p", "q"]) := by
  intro r
  have hr : r.Reachable := Router.reachable_afterAll _ _
  obtain ⟨hne, hquiet, hhidden⟩ : r.dynamicRoutes ≠ [] ∧ r.Quiet ∧
      ∀ member ∈ r.dynamicRoutes, member.2.hidden = 0 := by decide +kernel
  have hmembers : ∀ member ∈ r.dynamicRoutes,
      member ∈ r.dynamicRoutes ∧ ∀ p ∈ member.2.patterns, Quiet p.2 :=
    fun member hm => ⟨hm, hquiet member.2 (Router.mem_routes (Router.mem_dynamicRoutes.mp hm).1)⟩
  obtain ⟨hcompiles, hmatches, -⟩ := match_decodes hr hne hmembers
  obtain ⟨c, hc⟩ := hcompiles hhidden
  have hread : (compile r.dynamicRoutes).toOption.map (fun c =>
      (c.width, (c.pattern.captures? "/d/p/q").bind lastPopulated?, c.find? "/d/p/q")) =
        some (4, some 12, some (2, ["p", "q"])) := by decide +kernel
  rw [hc, Except.toOption, Option.map_some, Option.some.injEq, Prod.mk.injEq, Prod.mk.injEq] at hread
  obtain ⟨hwidth, hlast, hfound⟩ := hread
  obtain ⟨groups, hgroups, hlast⟩ := Option.bind_eq_some_iff.mp hlast
  obtain ⟨before, member, after, values, hsplit, -, -, hdecodes, -⟩ := (hmatches c hc).2.2 _ _ hgroups
  have hclear : ∀ other ∈ before ++ [member], other.2.hidden = 0 := fun other ho =>
    hhidden other (hsplit ▸ List.append_cons before member after ▸ List.mem_append_left after ho)
  have hdecoded := hdecodes.mpr hclear
  have hplace : before.length = 2 := by
    have hboundary := hdecoded.last
    rw [hlast, hwidth, Option.some.injEq] at hboundary
    omega
  have hvalues := hdecoded.found
  rw [hfound, Option.some.injEq] at hvalues
  rw [hplace, ← hvalues] at hdecoded
  exact ⟨hr, hne, hquiet, hhidden, c, groups, hc, hgroups, hdecoded⟩

/-- A hidden group moves the last group of a match to a number that is the boundary of no route. -/
theorem find?_none_of_match :
    let r := Router.afterAll {} [.add "/a/\x7bx\x7d/\x7by\x7d" .any (some "a"),
      .add "/b/\x7bp:(c)\x7b0\x7db\x7d" .any (some "b")]
    r.Reachable ∧ r.Quiet ∧ r.dynamicRoutes.map (fun member => member.2.hidden) = [0, 1] ∧
      ∃ c groups, compile r.dynamicRoutes = .ok c ∧ c.width = 3 ∧
        c.pattern.captures? "/b/b" = some groups ∧ populated groups = [4, 6, 7] ∧
        c.boundaries = [(3, 0), (6, 1)] ∧ c.find? "/b/b" = none := by
  intro r
  refine ⟨Router.reachable_afterAll _ _, by decide +kernel, by decide +kernel, ?_⟩
  have hread : (compile r.dynamicRoutes).toOption.map (fun c =>
      ((c.width, c.boundaries), (c.pattern.captures? "/b/b").map populated, c.find? "/b/b")) =
        some ((3, [(3, 0), (6, 1)]), some [4, 6, 7], none) := by decide +kernel
  obtain ⟨c, hc, hfacts⟩ := Option.map_eq_some_iff.mp hread
  simp only [Prod.mk.injEq] at hfacts
  obtain ⟨⟨hwidth, hboundaries⟩, hpopulated, hnone⟩ := hfacts
  obtain ⟨groups, hgroups, hpopulated⟩ := Option.map_eq_some_iff.mp hpopulated
  exact ⟨c, groups, ok_of_toOption hc, hwidth, hgroups, hpopulated, hboundaries, hnone⟩

end Chunk
end Routing
