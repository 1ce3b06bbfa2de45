import Routing.Proofs.GroupLayout
import Routing.Proofs.Pattern.Whole

/-! The search in one chunk: the route that it gives, compared with the first route of the chunk whose
own regular expression accepts the path. -/
namespace Routing

open Pattern Pattern.Expr

namespace Route

/-- What the groups of the route match in a path that it accepts. -/
def wholeMatch? (r : Route) (path : String) : Option Captures :=
  (seqAll r.parts).whole? 1 path.toList

/-- The values that the route takes from a path that it accepts. -/
def values? (r : Route) (path : String) : Option (List String) :=
  (r.captures? path).map fun groups => groups.map (·.getD "")

namespace Searchable

variable {r : Route}

theorem captures?_eq (hr : r.Searchable) (path : String) :
    r.captures? path = (r.wholeMatch? path).map fun captures =>
      (List.range r.anchoredExpr.lastGroup).map fun i => captures.group? (i + 1) := by
  obtain ⟨regex, hregex, _, hexpr⟩ := hr.regex_expr
  unfold captures?
  rw [hregex, Option.bind_some, captures?_anchored hexpr, groupCount, hexpr]
  rfl

theorem values?_eq_none (hr : r.Searchable) {path : String} :
    r.values? path = none ↔ r.wholeMatch? path = none := by
  unfold values?
  rw [hr.captures?_eq, Option.map_eq_none_iff, Option.map_eq_none_iff]

theorem exists_captures (hr : r.Searchable) {path : String} {values : List String}
    (h : r.values? path = some values) : ∃ captures, r.wholeMatch? path = some captures := by
  rw [← Option.isSome_iff_exists, Option.isSome_iff_ne_none]
  intro hnone
  rw [hr.values?_eq_none.mpr hnone] at h
  cases h

theorem values?_eq (hr : r.Searchable) (hhidden : r.hidden = 0) (path : String) :
    r.values? path = (r.wholeMatch? path).map fun captures =>
      (List.range r.parameterCount).map fun i => (captures.group? (i + 1)).getD "" := by
  have hlast : r.anchoredExpr.lastGroup = r.parameterCount := by
    rw [hr.wellFormed.live_anchoredExpr hhidden, hr.wellFormed.slots_anchoredExpr, hhidden,
      Nat.add_zero]
  unfold values?
  rw [hr.captures?_eq, Option.map_map, hlast]
  congr 1
  funext captures
  exact List.map_map

end Searchable

end Route

namespace Chunk

theorem lastPopulated?_concat (groups : List (Option String)) (group : Option String) :
    lastPopulated? (groups ++ [group]) =
      if group.isSome then some (groups.length + 1) else lastPopulated? groups := by
  unfold lastPopulated?
  rw [List.zipIdx_append, List.filter_append]
  cases group <;> simp [Nat.add_comm]

/-- The last group that takes part in a match, of `n` groups. -/
theorem lastPopulated?_eq {f : Nat → Option String} {n b : Nat} (hb : b < n)
    (hpopulated : (f b).isSome = true) (hlater : ∀ k, b < k → f k = none) :
    lastPopulated? ((List.range n).map f) = some (b + 1) := by
  induction n with
  | zero => omega
  | succ n ih =>
    rw [List.range_succ, List.map_append, List.map_singleton, lastPopulated?_concat]
    rcases Nat.lt_or_eq_of_le (Nat.le_of_lt_succ hb) with hlt | rfl
    · rw [hlater n hlt, ih hlt]
      rfl
    · rw [if_pos hpopulated, List.length_map, List.length_range]

theorem mem_of_lookup {α β : Type} [DecidableEq α] {l : List (α × β)} {a : α} {b : β}
    (h : l.lookup a = some b) : (a, b) ∈ l := by
  obtain ⟨before, after, rfl, _⟩ := List.lookup_eq_some_iff.mp h
  exact List.mem_append_right before List.mem_cons_self

/-- How many group numbers the alternatives of the members take. -/
def taken (width : Nat) (members : List (Nat × Route)) : Nat :=
  (members.map fun member => width + member.2.hidden).sum

/-- What the groups of an alternative hold, those after the route included. -/
def padded (width : Nat) (r : Route) (captures : Captures) : Captures :=
  captures ++ (List.range' (1 + (r.parameterCount + r.hidden)) (width - r.parameterCount)).map (·, [])

theorem taken_eq (width : Nat) (members : List (Nat × Route)) :
    taken width members = members.length * width + (members.map fun member => member.2.hidden).sum := by
  unfold taken
  induction members with
  | nil => simp
  | cons member members ih =>
    rw [List.map_cons, List.map_cons, List.sum_cons, List.sum_cons, ih, List.length_cons,
      Nat.add_one_mul]
    omega

theorem whole?_alternativeExpr {r : Route} (hr : r.WellFormed) (width : Nat) (path : String) :
    (alternativeExpr width r).whole? 1 path.toList = (r.wholeMatch? path).map (padded width r) := by
  have hslots : (seqAll r.parts).slots = r.parameterCount + r.hidden := by
    rw [slots_seqAll, hr.slots_parts]
  unfold alternativeExpr padded Route.wholeMatch?
  rw [whole?_padded, hslots]

theorem padded_range {width : Nat} {r : Route} {path : String} {captures : Captures}
    (hr : r.WellFormed) (hwidth : r.parameterCount < width)
    (h : r.wholeMatch? path = some captures) :
    ∀ p ∈ padded width r captures, 1 ≤ p.1 ∧ p.1 ≤ width + r.hidden := by
  have hrange := whole?_range h
  rw [slots_seqAll, hr.slots_parts] at hrange
  intro p hp
  rcases List.mem_append.mp hp with hp | hp
  · have hown := hrange p hp
    omega
  · obtain ⟨k, hk, rfl⟩ := List.mem_map.mp hp
    rw [List.mem_range'_1] at hk
    dsimp only
    omega

/-- The last of the empty groups is populated. -/
theorem padded_last {width : Nat} {r : Route} (hwidth : r.parameterCount < width)
    (captures : Captures) : ((padded width r captures).group? (width + r.hidden)).isSome = true := by
  refine Captures.isSome_group?.mpr ⟨(width + r.hidden, []), ?_, rfl⟩
  refine List.mem_append_right captures (List.mem_map.mpr ⟨width + r.hidden, ?_, rfl⟩)
  rw [List.mem_range'_1]
  omega

theorem padded_group? (width : Nat) {r : Route} {k : Nat} (hk : k < r.parameterCount)
    (captures : Captures) :
    (padded width r captures).group? (k + 1) = captures.group? (k + 1) := by
  refine Captures.group?_append_of_ne captures fun p hp => ?_
  obtain ⟨number, hnumber, rfl⟩ := List.mem_map.mp hp
  rw [List.mem_range'_1] at hnumber
  dsimp only
  omega

section Combined

variable {members : List (Nat × Route)} {c : Chunk} {path : String}

theorem groupCount_eq (hsearch : ∀ member ∈ members, member.2.Searchable)
    (hexpr : c.pattern.expr = combinedExpr members) :
    c.pattern.groupCount = taken (widthOf members) members := by
  have hlive : (combinedExpr members).Live := by
    refine live_seqAll fun e he => ?_
    simp only [List.mem_cons, List.not_mem_nil, or_false] at he
    rcases he with rfl | rfl | rfl
    · exact live_of_slots rfl
    · refine live_altAll fun e he => ?_
      obtain ⟨member, hm, rfl⟩ := List.mem_map.mp he
      exact live_alternativeExpr (lt_widthOf hm)
    · exact live_of_slots rfl
  have hslots : (combinedExpr members).slots = taken (widthOf members) members := by
    unfold combinedExpr taken
    rw [slots_seqAll]
    simp only [List.map_cons, List.map_nil, List.sum_cons, List.sum_nil, slots_altAll, slots,
      List.map_map, Nat.zero_add, Nat.add_zero]
    congr 1
    exact List.map_congr_left fun member hm =>
      slots_alternativeExpr (hsearch member hm).wellFormed (lt_widthOf hm)
  unfold groupCount
  rw [hexpr, hlive, hslots]

theorem captures?_combined (hsearch : ∀ member ∈ members, member.2.Searchable)
    (hexpr : c.pattern.expr = combinedExpr members) :
    c.pattern.captures? path =
      ((altAll (members.map fun member => alternativeExpr (widthOf members) member.2)).whole? 1
        path.toList).map fun captures =>
          (List.range (taken (widthOf members) members)).map fun i => captures.group? (i + 1) := by
  have hanchored : c.pattern.expr = seqAll (.look .textStart ::
      [altAll (members.map fun member => alternativeExpr (widthOf members) member.2)] ++
        [.look .textEnd]) := hexpr
  rw [captures?_anchored hanchored, groupCount_eq hsearch hexpr]
  rfl

/-- Without a route that accepts the path there is no match. -/
theorem captures?_eq_none (hne : members ≠ [])
    (hsearch : ∀ member ∈ members, member.2.Searchable)
    (hexpr : c.pattern.expr = combinedExpr members)
    (hnone : ∀ member ∈ members, member.2.values? path = none) :
    c.pattern.captures? path = none := by
  have hall : ∀ e ∈ members.map fun member => alternativeExpr (widthOf members) member.2,
      e.whole? 1 path.toList = none := by
    intro e he
    obtain ⟨member, hm, rfl⟩ := List.mem_map.mp he
    have hsearch := hsearch member hm
    rw [whole?_alternativeExpr hsearch.wellFormed, hsearch.values?_eq_none.mp (hnone member hm)]
    rfl
  rw [captures?_combined hsearch hexpr, whole?_altAll_none (by simpa using hne) hall]
  rfl

end Combined

section First

variable {before after : List (Nat × Route)} {member : Nat × Route} {c : Chunk} {path : String}
  {captures : Captures}

/-- The groups are those of the first route that accepts the path, behind all numbers that the
alternatives before it take. -/
theorem captures?_first (hsearch : ∀ other ∈ before ++ member :: after, other.2.Searchable)
    (hexpr : c.pattern.expr = combinedExpr (before ++ member :: after))
    (hbefore : ∀ other ∈ before, other.2.values? path = none)
    (hmember : member.2.wholeMatch? path = some captures) :
    c.pattern.captures? path =
      some ((List.range (taken (widthOf (before ++ member :: after)) (before ++ member :: after))).map
        fun i => ((padded (widthOf (before ++ member :: after)) member.2 captures).shift
          (taken (widthOf (before ++ member :: after)) before)).group? (i + 1)) := by
  rw [captures?_combined hsearch hexpr]
  have hlt : ∀ other ∈ before ++ member :: after,
      other.2.parameterCount < widthOf (before ++ member :: after) := fun _ h => lt_widthOf h
  generalize widthOf (before ++ member :: after) = width at hlt ⊢
  rw [List.forall_mem_append, List.forall_mem_cons] at hsearch hlt
  have hnone : ∀ e ∈ before.map fun member => alternativeExpr width member.2,
      e.whole? 1 path.toList = none := by
    intro e he
    obtain ⟨other, ho, rfl⟩ := List.mem_map.mp he
    have hother := hsearch.1 other ho
    rw [whole?_alternativeExpr hother.wellFormed, hother.values?_eq_none.mp (hbefore other ho)]
    rfl
  have hhere : (alternativeExpr width member.2).whole? 1 path.toList =
      some (padded width member.2 captures) := by
    rw [whole?_alternativeExpr hsearch.2.1.wellFormed, hmember]
    rfl
  have hslots : ((before.map fun member => alternativeExpr width member.2).map slots).sum =
      taken width before := by
    rw [List.map_map]
    congr 1
    exact List.map_congr_left fun other ho =>
      slots_alternativeExpr (hsearch.1 other ho).wellFormed (hlt.1 other ho)
  rw [List.map_append, List.map_cons, whole?_altAll_first hnone hhere, hslots]
  rfl

theorem taken_concat (width : Nat) (before : List (Nat × Route)) (member : Nat × Route) :
    taken width (before ++ [member]) = taken width before + (width + member.2.hidden) := by
  simp [taken]

theorem taken_append (width : Nat) (before after : List (Nat × Route)) :
    taken width (before ++ after) = taken width before + taken width after := by
  simp [taken]

/-- The last group that takes part is the last one of the alternative. -/
theorem lastPopulated?_first (hwell : member.2.WellFormed) {width : Nat}
    (hwidth : member.2.parameterCount < width) (hmember : member.2.wholeMatch? path = some captures) :
    lastPopulated? ((List.range (taken width (before ++ member :: after))).map fun i =>
      ((padded width member.2 captures).shift (taken width before)).group? (i + 1)) =
        some (taken width (before ++ [member])) := by
  have hrange := padded_range hwell hwidth hmember
  have hlast := padded_last hwidth captures
  have hall : taken width (before ++ member :: after) =
      taken width before + (width + member.2.hidden) + taken width after := by
    rw [List.append_cons, taken_append, taken_concat]
  obtain ⟨b, hb⟩ : ∃ b, taken width (before ++ [member]) = b + 1 :=
    ⟨_, (Nat.sub_add_cancel (by rw [taken_concat]; omega)).symm⟩
  rw [hb]
  rw [taken_concat] at hb
  refine lastPopulated?_eq (by omega) ?_ fun k hk => ?_
  · rw [← hb, Nat.add_comm, Captures.group?_shift]
    exact hlast
  · refine Captures.group?_eq_none fun p hp => ?_
    obtain ⟨q, hq, rfl⟩ := List.mem_map.mp hp
    have hq := hrange q hq
    dsimp only
    omega

/-- The groups of the parameters of the first route that accepts the path. -/
theorem getElem?_first {width i : Nat} (hwidth : member.2.parameterCount < width)
    (hi : i < member.2.parameterCount) :
    ((List.range (taken width (before ++ member :: after))).map fun i =>
      ((padded width member.2 captures).shift (taken width before)).group? (i + 1))[
        taken width before + i]? = some (captures.group? (i + 1)) := by
  have hall : taken width (before ++ member :: after) =
      taken width before + (width + member.2.hidden) + taken width after := by
    rw [List.append_cons, taken_append, taken_concat]
  have hlt : taken width before + i < taken width (before ++ member :: after) := by omega
  have hgroup : taken width before + i + 1 = i + 1 + taken width before := by omega
  rw [List.getElem?_map, List.getElem?_range hlt, Option.map_some, hgroup, Captures.group?_shift,
    padded_group? width hi]

end First

theorem find?_eq {members : List (Nat × Route)} {c : Chunk} (h : compile members = .ok c)
    {path : String} {groups : List (Option String)} (hgroups : c.pattern.captures? path = some groups)
    {boundary : Nat} (hboundary : lastPopulated? groups = some boundary) :
    c.find? path = (c.boundaries.lookup boundary).bind fun place => (members[place]?).map fun member =>
      (member.1, (List.range member.2.parameterCount).map fun i =>
        (groups[boundary + 1 - widthOf members + i - 1]?.join).getD "") := by
  have hmade : c.width = widthOf members ∧
      c.entries = members.map fun member => (member.1, member.2.parameterCount) := by
    obtain ⟨p, _, rfl⟩ := compile_eq_ok h
    exact ⟨rfl, rfl⟩
  unfold find?
  simp only [Option.bind_eq_bind, Option.pure_def, hgroups, Option.bind_some, hboundary, hmade.1,
    hmade.2, List.getElem?_map]
  congr 1
  funext place
  cases members[place]? <;> rfl

theorem lookup_boundaries {members : List (Nat × Route)} {c : Chunk} (h : compile members = .ok c)
    {boundary place : Nat} :
    c.boundaries.lookup boundary = some place ↔
      place < members.length ∧ boundary = (place + 1) * widthOf members := by
  have hboundaries : c.boundaries =
      (List.range members.length).map fun i => ((i + 1) * widthOf members, i) := by
    obtain ⟨p, _, rfl⟩ := compile_eq_ok h
    rw [List.range_eq_range', ← List.zipIdx_map_snd 0 members, List.map_map]
    rfl
  have hinjective : Function.Injective fun i => (i + 1) * widthOf members := by
    intro i j hij
    have hpos : 0 < widthOf members := Nat.succ_pos _
    exact Nat.succ.inj (Nat.mul_right_cancel hpos hij)
  rw [hboundaries]
  constructor
  · intro hlookup
    obtain ⟨i, hi, he⟩ := List.mem_map.mp (mem_of_lookup hlookup)
    cases he
    exact ⟨List.mem_range.mp hi, rfl⟩
  · rintro ⟨hlt, rfl⟩
    have hnodup : (((List.range members.length).map fun i => ((i + 1) * widthOf members, i)).map
        Prod.fst).Nodup := by
      rw [List.map_map]
      exact List.nodup_range.map hinjective
    exact Keyed.lookup_of_mem hnodup (List.mem_map.mpr ⟨place, List.mem_range.mpr hlt, rfl⟩)

section Find

variable {members : List (Nat × Route)} {c : Chunk} {path : String}

/-- What a chunk finds is one of its members, with a value for each parameter. -/
theorem find?_mem (h : compile members = .ok c) {found : Nat × List String}
    (hfound : c.find? path = some found) :
    ∃ member ∈ members, member.1 = found.1 ∧ found.2.length = member.2.parameterCount := by
  have hgroups := hfound
  unfold find? at hgroups
  obtain ⟨groups, hgroups, hrest⟩ := Option.bind_eq_some_iff.mp hgroups
  obtain ⟨boundary, hboundary, -⟩ := Option.bind_eq_some_iff.mp hrest
  rw [find?_eq h hgroups hboundary] at hfound
  obtain ⟨place, -, hplace⟩ := Option.bind_eq_some_iff.mp hfound
  obtain ⟨member, hmember, rfl⟩ := Option.map_eq_some_iff.mp hplace
  exact ⟨member, List.mem_of_getElem? hmember, rfl, by simp⟩

/-- If none of the routes accepts the path, the chunk finds nothing. -/
theorem find?_none (hne : members ≠ []) (hsearch : ∀ member ∈ members, member.2.Searchable)
    (h : compile members = .ok c) (hnone : ∀ member ∈ members, member.2.values? path = none) :
    c.find? path = none := by
  have hcaptures : c.pattern.captures? path = none :=
    captures?_eq_none hne hsearch (compile_expr hne hsearch h) hnone
  unfold find?
  rw [hcaptures]
  rfl

variable {before after : List (Nat × Route)} {member : Nat × Route} {values : List String}

/-- The first route that accepts the path decides which group is the last that takes part. -/
theorem find?_boundary (hsearch : ∀ other ∈ before ++ member :: after, other.2.Searchable)
    (h : compile (before ++ member :: after) = .ok c)
    (hbefore : ∀ other ∈ before, other.2.values? path = none)
    {captures : Captures} (hmember : member.2.wholeMatch? path = some captures) :
    let width := widthOf (before ++ member :: after)
    c.find? path = (c.boundaries.lookup (taken width (before ++ [member]))).bind fun place =>
      ((before ++ member :: after)[place]?).map fun other =>
        (other.1, (List.range other.2.parameterCount).map fun i =>
          ((((List.range (taken width (before ++ member :: after))).map fun i =>
            ((padded width member.2 captures).shift (taken width before)).group? (i + 1))[
              taken width (before ++ [member]) + 1 - width + i - 1]?).join).getD "") := by
  intro width
  have hexpr := compile_expr (List.append_ne_nil_of_right_ne_nil _ (List.cons_ne_nil _ _)) hsearch h
  have hin : member ∈ before ++ member :: after := List.mem_append_right _ List.mem_cons_self
  have hgroups := captures?_first hsearch hexpr hbefore hmember
  exact find?_eq h hgroups
    (lastPopulated?_first (hsearch member hin).wellFormed (lt_widthOf hin) hmember)

/-- The first route that accepts the path is found, with the values that it takes, if no alternative
up to it takes group numbers of its own. -/
theorem find?_first (hsearch : ∀ other ∈ before ++ member :: after, other.2.Searchable)
    (h : compile (before ++ member :: after) = .ok c)
    (hbefore : ∀ other ∈ before, other.2.values? path = none)
    (hvalues : member.2.values? path = some values)
    (hclear : ∀ other ∈ before ++ [member], other.2.hidden = 0) :
    c.find? path = some (member.1, values) := by
  have hin : member ∈ before ++ member :: after := List.mem_append_right _ List.mem_cons_self
  have hs := hsearch member hin
  have hhidden : member.2.hidden = 0 :=
    hclear member (List.mem_append_right _ (List.mem_singleton_self _))
  obtain ⟨captures, hmember⟩ := hs.exists_captures hvalues
  rw [hs.values?_eq hhidden, hmember, Option.map_some,
    Option.some.injEq] at hvalues
  have hwidth := lt_widthOf hin
  have hboundary := find?_boundary hsearch h hbefore hmember
  dsimp only at hboundary
  have hlookup : ∀ boundary, c.boundaries.lookup boundary = some before.length ↔
      before.length < (before ++ member :: after).length ∧
        boundary = (before.length + 1) * widthOf (before ++ member :: after) :=
    fun boundary => lookup_boundaries h
  generalize widthOf (before ++ member :: after) = width at *
  have hsum : ((before ++ [member]).map fun other => other.2.hidden).sum = 0 := by
    rw [List.sum_eq_zero_iff_forall_eq_nat, List.forall_mem_map]
    exact hclear
  have htaken : taken width (before ++ [member]) = (before.length + 1) * width := by
    rw [taken_eq, hsum, List.length_append, List.length_singleton, Nat.add_zero]
  have hplace := (hlookup _).mpr ⟨by simp, htaken⟩
  rw [hboundary, hplace, Option.bind_some, List.getElem?_append_right (Nat.le_refl _), Nat.sub_self,
    List.getElem?_cons_zero, Option.map_some, ← hvalues]
  congr 2
  refine List.map_congr_left fun i hi => ?_
  rw [List.mem_range] at hi
  have hindex : taken width (before ++ [member]) + 1 - width + i - 1 = taken width before + i := by
    rw [taken_concat, hhidden]
    omega
  rw [hindex, getElem?_first hwidth hi, Option.join_some]

/-- If an alternative up to the first route that accepts the path takes group numbers of its own, then
only a route behind that one can be found. -/
theorem find?_later (hsearch : ∀ other ∈ before ++ member :: after, other.2.Searchable)
    (h : compile (before ++ member :: after) = .ok c)
    (hbefore : ∀ other ∈ before, other.2.values? path = none)
    (hvalues : member.2.values? path = some values)
    (hhidden : ∃ other ∈ before ++ [member], other.2.hidden ≠ 0) {found : Nat × List String}
    (hfound : c.find? path = some found) : ∃ other ∈ after, other.1 = found.1 := by
  have hin : member ∈ before ++ member :: after := List.mem_append_right _ List.mem_cons_self
  obtain ⟨captures, hmember⟩ := (hsearch member hin).exists_captures hvalues
  rw [find?_boundary hsearch h hbefore hmember] at hfound
  obtain ⟨place, hplace, hfound⟩ := Option.bind_eq_some_iff.mp hfound
  obtain ⟨other, hother, rfl⟩ := Option.map_eq_some_iff.mp hfound
  obtain ⟨-, hboundary⟩ := (lookup_boundaries h).mp hplace
  have hsum : 0 < ((before ++ [member]).map fun other => other.2.hidden).sum := by
    rw [Nat.pos_iff_ne_zero, ne_eq, List.sum_eq_zero_iff_forall_eq_nat, List.forall_mem_map]
    obtain ⟨other, ho, hne⟩ := hhidden
    exact fun hall => hne (hall other ho)
  rw [taken_eq, List.length_append, List.length_singleton] at hboundary
  -- Hidden groups can move the last group to the boundary of a later route, but not of an earlier one.
  have hlt : before.length < place := by
    by_contra hle
    have hmul := Nat.mul_le_mul_right (widthOf (before ++ member :: after))
      (show place + 1 ≤ before.length + 1 by omega)
    omega
  rw [List.getElem?_append_right hlt.le,
    show place - before.length = place - before.length - 1 + 1 by omega,
    List.getElem?_cons_succ] at hother
  exact ⟨other, List.mem_of_getElem? hother, rfl⟩

end Find

end Chunk
end Routing
