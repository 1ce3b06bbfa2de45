import Routing.Proofs.Expressions

/-! Which groups the expressions of routes and chunks have: those around the parameters, and none in
them, as far as the patterns of the parameters have none. -/
namespace Routing

open Pattern

namespace Pattern.Expr

def group? : Expr → Option Expr
  | group e => some e
  | _ => none

/-- The last group number is that of a group that a match can reach. -/
def Live (e : Expr) : Prop := e.lastGroup = e.slots

theorem live_of_slots {e : Expr} (h : e.slots = 0) : e.Live := by
  have hle := e.lastGroup_le_slots
  unfold Live
  omega

theorem live_group {e : Expr} (h : e.Live) : (group e).Live := by
  unfold Live at h ⊢
  rw [lastGroup, slots, h]

theorem live_seq {a b : Expr} (ha : a.Live) (hb : b.Live) : (seq a b).Live := by
  unfold Live at ha hb ⊢
  rw [lastGroup, slots]
  split_ifs <;> omega

theorem live_alt {a b : Expr} (ha : a.Live) (hb : b.Live) : (alt a b).Live := by
  unfold Live at ha hb ⊢
  rw [lastGroup, slots]
  split_ifs <;> omega

/-- A group that a match can reach at the end is the last one, whatever stands before it. -/
theorem live_seq_of_pos (a : Expr) {b : Expr} (hb : b.Live) (hpos : 0 < b.slots) :
    (seq a b).Live := by
  unfold Live at hb ⊢
  rw [lastGroup, slots, if_neg (by omega), hb]

theorem live_seqAll {es : List Expr} (h : ∀ e ∈ es, e.Live) : (seqAll es).Live := by
  fun_induction seqAll es with
  | case1 => rfl
  | case2 e => exact h e (List.mem_singleton_self e)
  | case3 e rest _ ih =>
    rw [List.forall_mem_cons] at h
    exact live_seq h.1 (ih h.2)

theorem live_altAll {es : List Expr} (h : ∀ e ∈ es, e.Live) : (altAll es).Live := by
  fun_induction altAll es with
  | case1 => rfl
  | case2 e => exact h e (List.mem_singleton_self e)
  | case3 e rest _ ih =>
    rw [List.forall_mem_cons] at h
    exact live_alt h.1 (ih h.2)

/-- If only groups take numbers, so many are taken as the groups take. -/
theorem slots_sum_groups {es : List Expr} (h : ∀ e ∈ es, e.group? = none → e.slots = 0) :
    (es.map slots).sum = ((es.filterMap group?).map fun e => e.slots + 1).sum := by
  induction es with
  | nil => rfl
  | cons e es ih =>
    rw [List.forall_mem_cons] at h
    rw [List.map_cons, List.sum_cons, ih h.2]
    cases hg : e.group? with
    | none => rw [List.filterMap_cons_none hg, h.1 hg, Nat.zero_add]
    | some e' =>
      rw [List.filterMap_cons_some hg, List.map_cons, List.sum_cons]
      cases e with
      | group e => cases hg; rfl
      | _ => cases hg

end Pattern.Expr

namespace Route

/-- A part is one character or the group of a parameter. -/
theorem WellFormed.part_cases {r : Route} (hr : r.WellFormed) {e : Expr} (h : e ∈ r.parts) :
    (∃ c, e = .chars (.single c)) ∨ ∃ p ∈ r.patterns, e = .group (own p.2) := by
  obtain ⟨s, hs, he⟩ := List.mem_flatMap.mp h
  cases s with
  | literal text =>
    obtain ⟨c, _, rfl⟩ := List.mem_map.mp he
    exact .inl ⟨c, rfl⟩
  | param name =>
    obtain ⟨pattern, hp⟩ := exists_pattern hr.names hs
    have hlookup := hr.lookup hp
    refine .inr ⟨_, hp, ?_⟩
    rw [List.mem_singleton.mp he, hlookup]
    rfl

/-- The groups are those of the parameters, in their order. -/
theorem WellFormed.groups_parts {r : Route} (hr : r.WellFormed) :
    r.parts.filterMap Expr.group? = r.patterns.map fun p => own p.2 := by
  have hnames : r.parts.filterMap Expr.group? = (r.segments.filterMap Segment.param?).map fun name =>
      own ((r.patterns.lookup name).getD "") := by
    unfold parts
    induction r.segments with
    | nil => rfl
    | cons s segments ih =>
      rw [List.flatMap_cons, List.filterMap_append, ih]
      cases s with
      | literal text =>
        have hnone : (partOf r.patterns (.literal text)).filterMap Expr.group? = [] := by
          simp [partOf, Expr.group?]
        rw [hnone]
        rfl
      | param name => rfl
  rw [hnames, hr.names, parameterNames, List.map_map]
  refine List.map_congr_left fun p hp => ?_
  rw [Function.comp_apply, hr.lookup hp]
  rfl

theorem WellFormed.slots_parts {r : Route} (hr : r.WellFormed) :
    (r.parts.map Expr.slots).sum = r.parameterCount + r.hidden := by
  have hgroups : ∀ e ∈ r.parts, e.group? = none → e.slots = 0 := by
    intro e he hnone
    rcases hr.part_cases he with ⟨c, rfl⟩ | ⟨p, _, rfl⟩
    · rfl
    · cases hnone
  rw [Expr.slots_sum_groups hgroups, hr.groups_parts, List.map_map]
  unfold parameterCount hidden
  induction r.patterns with
  | nil => rfl
  | cons p patterns ih =>
    simp only [List.map_cons, List.sum_cons, List.length_cons, Function.comp_apply] at ih ⊢
    omega

theorem WellFormed.slots_anchoredExpr {r : Route} (hr : r.WellFormed) :
    r.anchoredExpr.slots = r.parameterCount + r.hidden := by
  unfold anchoredExpr
  rw [Expr.slots_seqAll, ← hr.slots_parts]
  simp [Expr.slots]

theorem WellFormed.live_anchoredExpr {r : Route} (hr : r.WellFormed) (h : r.hidden = 0) :
    r.anchoredExpr.Live := by
  refine Expr.live_seqAll fun e he => ?_
  simp only [List.mem_append, List.mem_cons, List.not_mem_nil, or_false] at he
  rcases he with (rfl | he) | rfl
  · exact Expr.live_of_slots rfl
  · rcases hr.part_cases he with ⟨c, rfl⟩ | ⟨p, hp, rfl⟩
    · exact Expr.live_of_slots rfl
    · exact Expr.live_group (Expr.live_of_slots (hidden_eq_zero.mp h p hp))
  · exact Expr.live_of_slots rfl

end Route

namespace Chunk

theorem lt_widthOf {members : List (Nat × Route)} {member : Nat × Route} (h : member ∈ members) :
    member.2.parameterCount < widthOf members := by
  have hmax (counts : List Nat) (start : Nat) :
      start ≤ counts.foldl max start ∧ ∀ n ∈ counts, n ≤ counts.foldl max start := by
    induction counts generalizing start with
    | nil => simp
    | cons n counts ih =>
      obtain ⟨hstart, hall⟩ := ih (max start n)
      rw [List.foldl_cons, List.forall_mem_cons]
      exact ⟨by omega, by omega, hall⟩
  exact Nat.lt_succ_of_le ((hmax _ 0).2 _ (List.mem_map.mpr ⟨member, h, rfl⟩))

/-- An alternative takes as many numbers as every other, as far as no pattern of a parameter takes
numbers by itself. -/
theorem slots_alternativeExpr {width : Nat} {r : Route} (hr : r.WellFormed)
    (hwidth : r.parameterCount < width) : (alternativeExpr width r).slots = width + r.hidden := by
  unfold alternativeExpr
  rw [Expr.slots_seqAll, List.map_cons, List.sum_cons, Expr.slots_seqAll, hr.slots_parts]
  simp [Expr.slots]
  omega

theorem live_alternativeExpr {width : Nat} {r : Route} (hwidth : r.parameterCount < width) :
    (alternativeExpr width r).Live := by
  obtain ⟨pads, hpads⟩ : ∃ pads, width - r.parameterCount = pads + 1 :=
    ⟨width - r.parameterCount - 1, by omega⟩
  have hlive : (Expr.seqAll (List.replicate (pads + 1) (.group .empty))).Live :=
    Expr.live_seqAll fun e he => by rw [List.eq_of_mem_replicate he]; rfl
  unfold alternativeExpr
  rw [hpads, List.replicate_succ]
  refine Expr.live_seq_of_pos _ hlive ?_
  rw [Expr.slots_seqAll, List.map_cons, List.sum_cons]
  exact Nat.lt_of_lt_of_le (Nat.succ_pos 0) (Nat.le_add_right _ _)

end Chunk
end Routing
