import Routing.Proofs.Registry
import Routing.Proofs.TableSearch

/-! The dynamic routes of a router that a request can resolve to, and the pieces in which they are put
into chunks. -/
namespace Routing

open Pattern

namespace MethodMask

theorem intersects_iff (a b : MethodMask) :
    a.intersects b = true ↔ ∃ verb ∈ b.verbs, a.intersects (ofVerb verb) = true := by
  have hbits : ∀ a b : BitVec 4, (a &&& b != 0) = true ↔
      ∃ verb ∈ Verb.all, (b &&& verb.bit != 0) = true ∧ (a &&& verb.bit != 0) = true := by decide
  have hverb : ∀ verb, (ofVerb verb).bits = verb.bit := by
    intro verb
    cases verb <;> rfl
  unfold intersects verbs
  simp only [List.mem_filter, hverb, and_assoc]
  exact hbits a.bits b.bits

theorem verbs_ne_nil (mask : MethodMask) : mask.verbs ≠ [] := by
  have hbits : ∀ b : BitVec 4, b ≠ 0 → Verb.all.filter (fun verb => b &&& verb.bit != 0) ≠ [] := by
    decide
  exact hbits mask.bits mask.bits_ne_zero

theorem verb?_ofVerb (verb : Verb) : (ofVerb verb).verb? = some verb := by
  cases verb <;> rfl

theorem verbs_of_verb? {mask : MethodMask} {verb : Verb} (h : mask.verb? = some verb) :
    mask.verbs = [verb] := by
  unfold verb? at h
  split at h
  · next hverbs => rw [hverbs, Option.some.inj h]
  · cases h

end MethodMask

namespace Router

/-- No pattern of a parameter turns on that blanks and comments are skipped. -/
def Quiet (r : Router) : Prop :=
  ∀ route ∈ r.routes.toList, ∀ p ∈ route.patterns, Pattern.Quiet p.2

instance (r : Router) : Decidable r.Quiet :=
  inferInstanceAs (Decidable (∀ route ∈ _, ∀ p ∈ _, _))

/-- The dynamic routes for a request, each with its position. -/
def candidates (r : Router) (mask : Option MethodMask) : List (Nat × Route) :=
  r.dynamicRoutes.filter (·.2.isMethod mask)

/-- The candidates as they are cut into chunks. -/
def pieces (r : Router) (mask : Option MethodMask) : List (List (Nat × Route)) :=
  Chunk.split r.config.effectiveChunkSize (r.candidates mask).length (r.candidates mask)

/-- The requests whose tables a request is looked up in. -/
def consulted : Option MethodMask → List (Option MethodMask)
  | none => [none]
  | some mask => mask.verbs.map fun verb => some (.ofVerb verb)

def tables : List (Option MethodMask) := none :: Verb.all.map fun verb => some (.ofVerb verb)

theorem mem_tables {mask table : Option MethodMask} (h : table ∈ consulted mask) :
    table ∈ tables := by
  unfold tables
  rw [List.mem_cons, List.mem_map]
  cases mask with
  | none => exact .inl (List.mem_singleton.mp h)
  | some mask =>
    obtain ⟨verb, hverb, rfl⟩ := List.mem_map.mp h
    exact .inr ⟨verb, List.mem_of_mem_filter hverb, rfl⟩

section Candidates

theorem dynamicRoutes_eq (r : Router) :
    r.dynamicRoutes = (r.routes.toList.zipIdx.map Prod.swap).filter (!·.2.isStatic) := rfl

theorem mem_dynamicRoutes {r : Router} {member : Nat × Route} :
    member ∈ r.dynamicRoutes ↔
      r.routeAt? member.1 = some member.2 ∧ member.2.isStatic = false := by
  obtain ⟨position, route⟩ := member
  have hindex : (position, route) ∈ r.routes.toList.zipIdx.map Prod.swap ↔
      r.routeAt? position = some route := by
    rw [List.mem_map]
    constructor
    · rintro ⟨⟨other, i⟩, hm, he⟩
      cases he
      have hget := List.mem_zipIdx_iff_getElem?.mp hm
      rwa [Array.getElem?_toList] at hget
    · intro h
      refine ⟨(route, position), List.mem_zipIdx_iff_getElem?.mpr ?_, rfl⟩
      rw [Array.getElem?_toList]
      exact h
  rw [dynamicRoutes_eq, List.mem_filter, hindex]
  simp

theorem mem_candidates {r : Router} {mask : Option MethodMask} {member : Nat × Route} :
    member ∈ r.candidates mask ↔
      r.routeAt? member.1 = some member.2 ∧ member.2.isStatic = false ∧
        member.2.isMethod mask = true := by
  unfold candidates
  rw [List.mem_filter, mem_dynamicRoutes, and_assoc]

theorem mem_routes {r : Router} {position : Nat} {route : Route}
    (h : r.routeAt? position = some route) : route ∈ r.routes.toList :=
  Array.mem_toList_iff.mpr (Array.mem_of_getElem? h)

theorem ordered_candidates (r : Router) (mask : Option MethodMask) :
    Ordered (r.candidates mask) := by
  have hall : Ordered (r.routes.toList.zipIdx.map Prod.swap) := by
    have hrange : ((r.routes.toList.zipIdx.map Prod.swap).map Prod.fst).Pairwise (· < ·) := by
      rw [List.map_map]
      change (r.routes.toList.zipIdx.map Prod.snd).Pairwise (· < ·)
      rw [List.zipIdx_map_snd]
      exact List.pairwise_lt_range'
    exact List.pairwise_map.mp hrange
  exact (hall.filter _).filter _

theorem map_candidates (r : Router) (mask : Option MethodMask) :
    (r.candidates mask).map Prod.snd =
      r.routes.toList.filter fun route => !route.isStatic && route.isMethod mask := by
  have hall : (r.routes.toList.zipIdx.map Prod.swap).map Prod.snd = r.routes.toList := by
    rw [List.map_map]
    exact List.zipIdx_map_fst 0 r.routes.toList
  unfold candidates
  rw [dynamicRoutes_eq, List.filter_filter]
  conv_rhs => rw [← hall, List.filter_map]
  congr 2
  funext member
  exact Bool.and_comm _ _

/-- A request for several verbs has the candidates that the requests for each of them have. -/
theorem mem_candidates_iff {r : Router} {mask : Option MethodMask} {member : Nat × Route} :
    member ∈ r.candidates mask ↔ ∃ table ∈ consulted mask, member ∈ r.candidates table := by
  cases mask with
  | none => simp [consulted]
  | some mask =>
    have hmethod : member.2.isMethod (some mask) = true ↔
        ∃ verb ∈ mask.verbs, member.2.isMethod (some (.ofVerb verb)) = true := by
      unfold Route.isMethod
      cases member.2.method with
      | none => simpa using List.exists_mem_of_ne_nil _ mask.verbs_ne_nil
      | some accepted => exact accepted.intersects_iff mask
    simp only [consulted, List.mem_map, mem_candidates, hmethod]
    constructor
    · rintro ⟨hat, hdynamic, verb, hverb, haccepts⟩
      exact ⟨_, ⟨verb, hverb, rfl⟩, hat, hdynamic, haccepts⟩
    · rintro ⟨_, ⟨verb, hverb, rfl⟩, hat, hdynamic, haccepts⟩
      exact ⟨hat, hdynamic, verb, hverb, haccepts⟩

theorem flatten_pieces (r : Router) (mask : Option MethodMask) :
    (r.pieces mask).flatten = r.candidates mask :=
  Chunk.flatten_split (Nat.le_max_right _ 1) (Nat.le_refl _)

theorem ne_nil_of_mem_pieces {r : Router} {mask : Option MethodMask} {piece : List (Nat × Route)}
    (h : piece ∈ r.pieces mask) : piece ≠ [] :=
  Chunk.ne_nil_of_mem_split (Nat.le_max_right _ 1) h

end Candidates

/-- Every route of a reachable router is as reading and changes leave it. -/
theorem Reachable.wellFormed {r : Router} (h : r.Reachable) :
    ∀ route ∈ r.routes.toList, route.WellFormed := by
  have hat : ∀ position route, r.routeAt? position = some route → route.WellFormed := by
    -- Only a registration and a change put a route anywhere.
    refine h.invariant (P := fun r => ∀ position route, r.routeAt? position = some route →
      route.WellFormed) (fun config position route hroute => ?_) fun r r' hmove hr => ?_
    · simp [ofConfig, routeAt?] at hroute
    · intro position route hroute
      cases hmove with
      | settings => exact hr position route hroute
      | @enter uri name mask parsed hparse _ =>
        rw [routeAt?_enter] at hroute
        split_ifs at hroute
        · rw [← Option.some.inj hroute]
          obtain ⟨_, _, _, _, _, hnames, hnodup, hvalid, hregex⟩ := Route.parse_ok hparse
          have hnamed : { parsed with name }.WellFormed := ⟨hnames, hnodup, hvalid, hregex⟩
          exact RouteChange.apply_wellFormed hnamed (r.apply_entered parsed name)
        · exact hr position route hroute
      | @amend at' old new change hfound hchanged =>
        rw [routeAt?_amend] at hroute
        split_ifs at hroute with hposition
        · obtain ⟨old', _, rfl⟩ := Option.map_eq_some_iff.mp hroute
          exact RouteChange.apply_wellFormed (hr _ _ hfound) hchanged
        · exact hr position route hroute
  intro route hroute
  obtain ⟨position, hposition⟩ := Array.mem_iff_getElem?.mp (Array.mem_toList_iff.mp hroute)
  exact hat position route hposition

theorem Reachable.enclosed {r : Router} (hr : r.Reachable) (hquiet : r.Quiet) {route : Route}
    (hroute : route ∈ r.routes.toList) : route.Enclosed :=
  (hr.wellFormed route hroute).sound.encloses (hquiet route hroute)

theorem Reachable.searchable {r : Router} (hr : r.Reachable) (hquiet : r.Quiet) {route : Route}
    (hroute : route ∈ r.routes.toList) (hdynamic : route.isStatic = false) : route.Searchable :=
  ⟨hr.wellFormed route hroute, hdynamic, hr.enclosed hquiet hroute⟩

end Router
end Routing
