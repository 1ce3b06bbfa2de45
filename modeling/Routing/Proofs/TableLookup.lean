import Routing.Proofs.Candidates
import Routing.Router.Matcher

/-! The search in the tables of a matcher, one or several of them for a request. -/
namespace Routing

namespace Matcher

/-- The table for a request of one verb or of any. -/
def tableFor (m : Matcher) (mask : Option MethodMask) : ChunkTable :=
  match mask.bind MethodMask.verb? with
  | some verb => m.table verb
  | none => m.any

/-- Either all tables compile, or the first one that does not is why there is no matcher. -/
theorem ofRouter_cases (r : Router) :
    (∃ m, ofRouter r = .ok m ∧ m.router = r ∧ ∀ table ∈ Router.tables,
      ChunkTable.compile r.config.effectiveChunkSize (r.candidates table) = .ok (m.tableFor table)) ∨
    ∃ table ∈ Router.tables, ∃ e,
      ChunkTable.compile r.config.effectiveChunkSize (r.candidates table) = .error e ∧
        ofRouter r = .error e := by
  have hall : r.candidates none = r.dynamicRoutes := List.filter_eq_self.mpr fun member _ => rfl
  have hverb (verb : Verb) : some (.ofVerb verb) ∈ Router.tables := by cases verb <;> decide
  unfold ofRouter
  simp only [bind, Except.bind, pure, Except.pure]
  split
  · next e hget => exact .inr ⟨_, hverb .get, e, hget, rfl⟩
  next get hget =>
  split
  · next e hpost => exact .inr ⟨_, hverb .post, e, hpost, rfl⟩
  next post hpost =>
  split
  · next e hput => exact .inr ⟨_, hverb .put, e, hput, rfl⟩
  next put hput =>
  split
  · next e hdelete => exact .inr ⟨_, hverb .delete, e, hdelete, rfl⟩
  next delete hdelete =>
  split
  · next e hany => exact .inr ⟨none, List.mem_cons_self, e, hall ▸ hany, rfl⟩
  next any hany =>
  refine .inl ⟨_, rfl, rfl, fun table htable => ?_⟩
  rcases List.mem_cons.mp htable with rfl | htable
  · rw [hall]
    exact hany
  · obtain ⟨verb, _, rfl⟩ := List.mem_map.mp htable
    cases verb
    · exact hget
    · exact hpost
    · exact hput
    · exact hdelete

theorem ofRouter_eq_ok {r : Router} {m : Matcher} (h : ofRouter r = .ok m) :
    m.router = r ∧ ∀ table ∈ Router.tables,
      ChunkTable.compile r.config.effectiveChunkSize (r.candidates table) =
        .ok (m.tableFor table) := by
  rcases ofRouter_cases r with ⟨m', hm', hcompiled⟩ | ⟨_, _, e, _, herror⟩
  · rw [h] at hm'
    cases hm'
    exact hcompiled
  · rw [h] at herror
    cases herror

theorem earliest?_toList (found : Option (Nat × List String)) :
    earliest? found.toList = found := by
  cases found <;> rfl

theorem findDynamic?_eq (m : Matcher) (path : String) (mask : Option MethodMask) :
    m.findDynamic? path mask =
      earliest? ((Router.consulted mask).filterMap fun table => (m.tableFor table).find? path) := by
  have hone (found : Option (Nat × List String)) :
      [()].filterMap (fun _ => found) = found.toList := by
    cases found <;> rfl
  cases mask with
  | none => exact ((congrArg _ (hone _)).trans (earliest?_toList _)).symm
  | some mask =>
    have htable : (fun verb => (m.tableFor (some (.ofVerb verb))).find? path) =
        fun verb => (m.table verb).find? path := by
      funext verb
      unfold tableFor
      rw [Option.bind_some, MethodMask.verb?_ofVerb]
    unfold findDynamic? Router.consulted
    rw [List.filterMap_map]
    change _ = earliest? (mask.verbs.filterMap fun verb =>
      (m.tableFor (some (.ofVerb verb))).find? path)
    rw [htable]
    dsimp only
    split
    · next verb hverb =>
      rw [MethodMask.verbs_of_verb? hverb]
      exact ((congrArg _ (hone _)).trans (earliest?_toList _)).symm
    · rfl

theorem earliest?_mem {l : List (Nat × List String)} {found : Nat × List String}
    (h : earliest? l = some found) : found ∈ l := by
  induction l generalizing found with
  | nil => cases h
  | cons first l ih =>
    rw [earliest?] at h
    split at h
    · next other hother =>
      split_ifs at h
      · exact List.mem_cons_of_mem _ (Option.some.inj h ▸ ih hother)
      · exact Option.some.inj h ▸ List.mem_cons_self
    · exact Option.some.inj h ▸ List.mem_cons_self

/-- A find that comes before all others is the earliest. -/
theorem earliest?_eq_some {l : List (Nat × List String)} {first : Nat × List String}
    (hmem : first ∈ l) (h : ∀ found ∈ l, found = first ∨ first.1 < found.1) :
    earliest? l = some first := by
  induction l with
  | nil => cases hmem
  | cons found l ih =>
    rw [List.forall_mem_cons] at h
    rw [earliest?]
    cases hrest : earliest? l with
    | none =>
      rcases List.mem_cons.mp hmem with rfl | hmem
      · rfl
      · rw [ih hmem h.2] at hrest
        cases hrest
    | some other =>
      have hother := h.2 other (earliest?_mem hrest)
      rcases List.mem_cons.mp hmem with rfl | hmem
      · dsimp only
        split_ifs with hlt
        · rcases hother with rfl | hlt'
          · rfl
          · omega
        · rfl
      · rw [ih hmem h.2, Option.some.injEq] at hrest
        subst hrest
        dsimp only
        split_ifs with hlt
        · rfl
        · rcases h.1 with rfl | hlt'
          · rfl
          · omega

section Tables

variable {r : Router} {m : Matcher} {path : String} {mask table : Option MethodMask}
  {member : Nat × Route} {values : List String}

open Router

theorem compiled_pieces (hm : ofRouter r = .ok m) (htable : table ∈ consulted mask) :
    List.Forall₂ (fun piece c => Chunk.compile piece = .ok c) (r.pieces table) (m.tableFor table) :=
  mapM_eq_ok.mp ((ofRouter_eq_ok hm).2 table (mem_tables htable))

theorem searchable_pieces (hr : r.Reachable) (hquiet : r.Quiet) :
    ∀ other ∈ (r.pieces table).flatten, other.2.Searchable := by
  intro other ho
  rw [flatten_pieces, mem_candidates] at ho
  exact hr.searchable hquiet (mem_routes ho.1) ho.2.1

/-- Members at the same position are the same. -/
theorem eq_of_position {mask' : Option MethodMask} {other : Nat × Route}
    (h : member ∈ r.candidates mask) (h' : other ∈ r.candidates mask') (he : other.1 = member.1) :
    other = member := by
  rw [mem_candidates] at h h'
  rw [he, h.1] at h'
  exact Prod.ext he (Option.some.inj h'.1).symm

theorem firstToAccept_table (hfirst : FirstToAccept (r.candidates mask) path member values)
    (htable : table ∈ consulted mask) (hm : member ∈ r.candidates table) :
    FirstToAccept (r.pieces table).flatten path member values := by
  rw [flatten_pieces]
  exact hfirst.of_subset (fun other ho => mem_candidates_iff.mpr ⟨table, htable, ho⟩) hm

/-- A table that is clear up to the first route that accepts the path finds that route. -/
theorem find?_tableFor (hr : r.Reachable) (hquiet : r.Quiet) (hm : ofRouter r = .ok m)
    (hfirst : FirstToAccept (r.candidates mask) path member values)
    (htable : table ∈ consulted mask) (hclear : ∃ piece ∈ r.pieces table, Clear piece member.1) :
    (m.tableFor table).find? path = some (member.1, values) := by
  have hin : member ∈ r.candidates table := by
    obtain ⟨piece, hpiece, hposition, -⟩ := hclear
    obtain ⟨other, ho, he⟩ := List.mem_map.mp hposition
    have hcandidate : other ∈ r.candidates table :=
      flatten_pieces r table ▸ List.mem_flatten_of_mem hpiece ho
    exact eq_of_position hfirst.mem hcandidate he ▸ hcandidate
  refine ChunkTable.find?_of_clear (compiled_pieces hm htable)
    (fun piece hp => ne_nil_of_mem_pieces hp) (searchable_pieces hr hquiet) ?_
    (firstToAccept_table hfirst htable hin) hclear
  rw [flatten_pieces]
  exact r.ordered_candidates table

/-- Whatever a table finds, it is either this route, with its values, or a later one. -/
theorem tableFor_cases (hr : r.Reachable) (hquiet : r.Quiet) (hm : ofRouter r = .ok m)
    (hfirst : FirstToAccept (r.candidates mask) path member values)
    (htable : table ∈ consulted mask) {found : Nat × List String}
    (hfound : (m.tableFor table).find? path = some found) :
    (found = (member.1, values) ∧ ∃ piece ∈ r.pieces table, Clear piece member.1) ∨
      member.1 < found.1 := by
  have hcompiled := compiled_pieces hm htable
  have hne : ∀ piece ∈ r.pieces table, piece ≠ [] := fun piece hp => ne_nil_of_mem_pieces hp
  have hsearch : ∀ other ∈ (r.pieces table).flatten, other.2.Searchable :=
    searchable_pieces hr hquiet
  have hordered : Ordered (r.pieces table).flatten := by
    rw [flatten_pieces]
    exact r.ordered_candidates table
  by_cases hin : member ∈ r.candidates table
  · have hfirst' := firstToAccept_table hfirst htable hin
    by_cases hclear : ∃ piece ∈ r.pieces table, Clear piece member.1
    · rw [find?_tableFor hr hquiet hm hfirst htable hclear] at hfound
      exact .inl ⟨(Option.some.inj hfound).symm, hclear⟩
    · push Not at hclear
      exact .inr (ChunkTable.lt_of_not_clear hcompiled hne hsearch hordered hfirst' hclear hfound)
  · -- The table finds a route of its own, and all of those that accept the path come later.
    have haccepts : ∃ other ∈ (r.pieces table).flatten, other.2.values? path ≠ none := by
      by_contra hnone
      push Not at hnone
      rw [ChunkTable.find?_none hcompiled hne hsearch hnone] at hfound
      cases hfound
    obtain ⟨other, values', hother⟩ := exists_firstToAccept hordered haccepts
    have hcandidate : other ∈ r.candidates table := flatten_pieces r table ▸ hother.mem
    have hlt : member.1 < other.1 := by
      rcases Nat.lt_trichotomy member.1 other.1 with hlt | he | hlt
      · exact hlt
      · exact absurd (eq_of_position hfirst.mem hcandidate he.symm ▸ hcandidate) hin
      · have hnone := hfirst.before other (mem_candidates_iff.mpr ⟨table, htable, hcandidate⟩) hlt
        rw [hother.accepts] at hnone
        cases hnone
    by_cases hclear : ∃ piece ∈ r.pieces table, Clear piece other.1
    · rw [ChunkTable.find?_of_clear hcompiled hne hsearch hordered hother hclear] at hfound
      cases hfound
      exact .inr hlt
    · push Not at hclear
      exact .inr (hlt.trans
        (ChunkTable.lt_of_not_clear hcompiled hne hsearch hordered hother hclear hfound))

theorem findDynamic?_of_clear (hr : r.Reachable) (hquiet : r.Quiet) (hm : ofRouter r = .ok m)
    (hfirst : FirstToAccept (r.candidates mask) path member values)
    (hclear : ∃ table ∈ consulted mask, ∃ piece ∈ r.pieces table, Clear piece member.1) :
    m.findDynamic? path mask = some (member.1, values) := by
  obtain ⟨table, htable, hclear⟩ := hclear
  rw [findDynamic?_eq]
  refine earliest?_eq_some ?_ fun found hfound => ?_
  · exact List.mem_filterMap.mpr
      ⟨table, htable, find?_tableFor hr hquiet hm hfirst htable hclear⟩
  · obtain ⟨other, hother, hfound⟩ := List.mem_filterMap.mp hfound
    exact (tableFor_cases hr hquiet hm hfirst hother hfound).imp_left And.left

theorem lt_of_findDynamic? (hr : r.Reachable) (hquiet : r.Quiet) (hm : ofRouter r = .ok m)
    (hfirst : FirstToAccept (r.candidates mask) path member values)
    (hclear : ¬∃ table ∈ consulted mask, ∃ piece ∈ r.pieces table, Clear piece member.1)
    {found : Nat × List String} (hfound : m.findDynamic? path mask = some found) :
    member.1 < found.1 := by
  rw [findDynamic?_eq] at hfound
  obtain ⟨table, htable, hfound⟩ := List.mem_filterMap.mp (earliest?_mem hfound)
  rcases tableFor_cases hr hquiet hm hfirst htable hfound with ⟨-, hpiece⟩ | hlt
  · exact absurd ⟨table, htable, hpiece⟩ hclear
  · exact hlt

/-- What is found is a candidate, with a value for each parameter. -/
theorem findDynamic?_mem (hm : ofRouter r = .ok m) {found : Nat × List String}
    (hfound : m.findDynamic? path mask = some found) :
    ∃ member ∈ r.candidates mask, member.1 = found.1 ∧
      found.2.length = member.2.parameterCount := by
  rw [findDynamic?_eq] at hfound
  obtain ⟨table, htable, hfound⟩ := List.mem_filterMap.mp (earliest?_mem hfound)
  obtain ⟨member, hmember, he⟩ := ChunkTable.find?_mem (compiled_pieces hm htable) hfound
  rw [flatten_pieces] at hmember
  exact ⟨member, mem_candidates_iff.mpr ⟨table, htable, hmember⟩, he⟩

theorem findDynamic?_none (hr : r.Reachable) (hquiet : r.Quiet) (hm : ofRouter r = .ok m)
    (hnone : ∀ other ∈ r.candidates mask, other.2.values? path = none) :
    m.findDynamic? path mask = none := by
  have hall : ∀ table ∈ consulted mask, (m.tableFor table).find? path = none := by
    intro table htable
    refine ChunkTable.find?_none (compiled_pieces hm htable)
      (fun piece hp => ne_nil_of_mem_pieces hp) (searchable_pieces hr hquiet) ?_
    rw [flatten_pieces]
    exact fun other ho => hnone other (mem_candidates_iff.mpr ⟨table, htable, ho⟩)
  rw [findDynamic?_eq, List.filterMap_eq_nil_iff.mpr hall]
  rfl

theorem searchable_piece (hr : r.Reachable) (hquiet : r.Quiet) {piece : List (Nat × Route)}
    (hpiece : piece ∈ r.pieces table) : ∀ member ∈ piece, member.2.Searchable :=
  fun member hm => searchable_pieces hr hquiet member (List.mem_flatten_of_mem hpiece hm)

/-- The only error is a chunk in which two groups have the same name. -/
theorem ofRouter_eq_error (hr : r.Reachable) (hquiet : r.Quiet) {e : Error}
    (h : ofRouter r = .error e) :
    ∃ table ∈ tables, ∃ piece ∈ r.pieces table,
      ¬(Chunk.groupNames piece).Nodup ∧ e = .invalidPattern (Chunk.combined piece) := by
  rcases ofRouter_cases r with ⟨m, hm, _⟩ | ⟨table, htable, e', herror, he⟩
  · rw [h] at hm
    cases hm
  · rw [h] at he
    cases he
    obtain ⟨piece, hpiece, herror⟩ := exists_of_mapM_error herror
    refine ⟨table, htable, piece, hpiece, fun hnodup => ?_, Chunk.compile_eq_error herror⟩
    obtain ⟨c, hc⟩ := (Chunk.exists_compile_iff (ne_nil_of_mem_pieces hpiece)
      (searchable_piece hr hquiet hpiece)).mpr hnodup
    rw [herror] at hc
    cases hc

/-- There is a matcher exactly if no two groups in a chunk have the same name. -/
theorem exists_ofRouter_iff (hr : r.Reachable) (hquiet : r.Quiet) :
    (∃ m, ofRouter r = .ok m) ↔
      ∀ table ∈ tables, ∀ piece ∈ r.pieces table, (Chunk.groupNames piece).Nodup := by
  constructor
  · rintro ⟨m, hm⟩ table htable piece hpiece
    obtain ⟨c, hc⟩ := exists_of_mapM_ok ((ofRouter_eq_ok hm).2 table htable) hpiece
    exact (Chunk.exists_compile_iff (ne_nil_of_mem_pieces hpiece)
      (searchable_piece hr hquiet hpiece)).mp ⟨c, hc⟩
  · intro h
    rw [exists_ok_iff]
    intro e herror
    obtain ⟨table, htable, piece, hpiece, htwice, -⟩ := ofRouter_eq_error hr hquiet herror
    exact htwice (h table htable piece hpiece)

theorem exists_ofRouter (hr : r.Reachable) (hquiet : r.Quiet)
    (hhidden : ∀ route ∈ r.routes.toList, route.hidden = 0) : ∃ m, ofRouter r = .ok m := by
  rw [exists_ofRouter_iff hr hquiet]
  intro table htable piece hpiece
  have hnone : ∀ member ∈ piece, member.2.hidden = 0 := by
    intro member hm
    have hcandidate : member ∈ (r.pieces table).flatten := List.mem_flatten_of_mem hpiece hm
    rw [flatten_pieces, mem_candidates] at hcandidate
    exact hhidden member.2 (mem_routes hcandidate.1)
  rw [Chunk.groupNames_eq_nil (searchable_piece hr hquiet hpiece) hnone]
  exact List.nodup_nil

end Tables

end Matcher
end Routing
