import Mathlib.Data.List.Induction
import Mathlib.Data.List.Sort
import Mathlib.Order.Fin.Basic
import Routing.Proofs.RouteChanges

/-! The registry along runs: names and positions stay in one-to-one correspondence, the index of
static routes stays sorted and complete, and no operation touches what identifies a route. -/
namespace Routing.Router

/-- What the two indexes say of the routes. -/
structure Consistent (r : Router) : Prop where
  names : ∀ name i, r.names[name]? = some i ↔ ∃ route, r.routeAt? i = some route ∧ route.name = name
  sorted : ∀ path, (r.staticIndex.getD path []).Pairwise (· < ·)
  static : ∀ path i, i ∈ r.staticIndex.getD path [] ↔
    ∃ route, r.routeAt? i = some route ∧ route.isStatic = true ∧ route.path = path

/-- Every route stays at its position, and nothing that identifies it changes. -/
def Retains (before after : Router) : Prop :=
  ∀ i route, before.routeAt? i = some route →
    ∃ route', after.routeAt? i = some route' ∧ route.Kept route'

def entered (r : Router) (route : Route) (name : String) : Route :=
  { route with name }.addParameters r.globals.toList

/-- The globals are added as a change adds them. -/
theorem apply_entered (r : Router) (route : Route) (name : String) :
    (RouteChange.addParameters r.globals.toList).apply { route with name } =
      .ok (r.entered route name) := rfl

theorem entered_kept (r : Router) (route : Route) (name : String) :
    { route with name }.Kept (r.entered route name) :=
  RouteChange.apply_kept (r.apply_entered route name)

theorem routeAt?_enter (r : Router) (route : Route) (name : String) (i : Nat) :
    (r.enter route name).routeAt? i =
      if i = r.routes.size then some (r.entered route name) else r.routeAt? i :=
  Array.getElem?_push

theorem routeAt?_lt {r : Router} {i : Nat} {route : Route} (h : r.routeAt? i = some route) :
    i < r.routes.size :=
  (Array.getElem?_eq_some_iff.mp h).1

theorem routeAt?_amend (r : Router) (position : Nat) (route' : Route) (i : Nat) :
    { r with routes := r.routes.setIfInBounds position route' }.routeAt? i =
      if position = i then (r.routeAt? i).map fun _ => route' else r.routeAt? i := by
  unfold routeAt?
  rw [Array.getElem?_setIfInBounds]
  split_ifs with he hlt
  · simp [← he, Array.getElem?_eq_getElem hlt]
  · simp [← he, Array.getElem?_eq_none (Nat.le_of_not_lt hlt)]
  · rfl

theorem Retains.refl (r : Router) : Retains r r :=
  fun _ route h => ⟨route, h, .refl route⟩

theorem Retains.trans {a b c : Router} (hab : Retains a b) (hbc : Retains b c) : Retains a c := by
  intro i route h
  obtain ⟨route', h', hk⟩ := hab i route h
  obtain ⟨route'', h'', hk'⟩ := hbc i route' h'
  exact ⟨route'', h'', hk.trans hk'⟩

theorem Move.retains {r r' : Router} (h : Move r r') : Retains r r' := by
  intro i route hi
  cases h with
  | settings => exact ⟨route, hi, .refl route⟩
  | enter parsed fresh =>
    refine ⟨route, ?_, .refl route⟩
    rw [routeAt?_enter, if_neg (routeAt?_lt hi).ne, hi]
  | @amend position found route' change hfound changed =>
    rw [routeAt?_amend]
    by_cases he : position = i
    · rw [he, hi] at hfound
      cases hfound
      exact ⟨route', by rw [if_pos he, hi]; rfl, RouteChange.apply_kept changed⟩
    · exact ⟨route, by rw [if_neg he, hi], .refl route⟩

theorem Moves.retains {r r' : Router} (h : Moves r r') : Retains r r' := by
  induction h with
  | refl => exact .refl r
  | tail _ hlast ih => exact ih.trans hlast.retains

theorem consistent_ofConfig (config : Config) : (ofConfig config).Consistent := by
  refine ⟨fun name i => ?_, fun path => ?_, fun path i => ?_⟩
  · simp [ofConfig, routeAt?]
  · simp [ofConfig]
  · simp [ofConfig, routeAt?]

theorem routeAt?_size (r : Router) : r.routeAt? r.routes.size = none :=
  Array.getElem?_eq_none (Nat.le_refl _)

theorem names_enter (r : Router) (route : Route) (name other : String) :
    (r.enter route name).names[other]? =
      if name = other then some r.routes.size else r.names[other]? := by
  change (r.names.insert name r.routes.size)[other]? = _
  simp only [Std.TreeMap.getElem?_insert, Std.LawfulEqCmp.compare_eq_iff_eq]

theorem staticIndex_enter (r : Router) (route : Route) (name path : String) :
    (r.enter route name).staticIndex.getD path [] = r.staticIndex.getD path [] ++
      if (r.entered route name).isStatic = true ∧ (r.entered route name).path = path then
        [r.routes.size]
      else [] := by
  change (if (r.entered route name).isStatic = true then
    r.staticIndex.insert (r.entered route name).path
      (r.staticIndex.getD (r.entered route name).path [] ++ [r.routes.size])
    else r.staticIndex).getD path [] = _
  by_cases hs : (r.entered route name).isStatic = true
  · simp only [hs, if_true, true_and, Std.TreeMap.getD_insert, Std.LawfulEqCmp.compare_eq_iff_eq]
    split_ifs with hp
    · rw [hp]
    · rw [List.append_nil]
  · simp [hs]

theorem consistent_enter {r : Router} (hr : r.Consistent) (route : Route) {name : String}
    (fresh : name ∉ r.names) : (r.enter route name).Consistent := by
  have hname : (r.entered route name).name = name := (r.entered_kept route name).name
  have hfree : r.names[name]? = none := by simpa using fresh
  have hbelow : ∀ path, ∀ i ∈ r.staticIndex.getD path [], i < r.routes.size := by
    intro path i hi
    obtain ⟨_, hroute, _⟩ := (hr.static path i).mp hi
    exact routeAt?_lt hroute
  refine ⟨fun other i => ?_, fun path => ?_, fun path i => ?_⟩
  · rw [names_enter, routeAt?_enter]
    by_cases hi : i = r.routes.size
    · -- No name had the new position before.
      have hold : r.names[other]? ≠ some r.routes.size := fun h => by
        obtain ⟨_, hroute, _⟩ := (hr.names other _).mp h
        rw [routeAt?_size] at hroute
        cases hroute
      by_cases hn : name = other
      · simpa [hi, hn] using hn ▸ hname
      · simp [hi, hn, hname, hold]
    · rw [if_neg hi, ← hr.names]
      by_cases hn : name = other
      · rw [if_pos hn, ← hn, hfree]
        simpa using Ne.symm hi
      · rw [if_neg hn]
  · rw [staticIndex_enter, List.pairwise_append]
    refine ⟨hr.sorted path, by split_ifs <;> simp, fun a ha b hb => ?_⟩
    have hlt := hbelow path a ha
    split_ifs at hb <;> simp_all
  · rw [staticIndex_enter, List.mem_append, routeAt?_enter, hr.static]
    by_cases hi : i = r.routes.size
    · simp [hi, routeAt?_size]
    · simp [hi]

theorem consistent_amend {r : Router} (hr : r.Consistent) {position : Nat} {route route' : Route}
    (hfound : r.routeAt? position = some route) (hk : route.Kept route') :
    { r with routes := r.routes.setIfInBounds position route' }.Consistent := by
  have hat : ∀ i, ∀ P : Route → Prop, (P route' ↔ P route) →
      ((∃ x, { r with routes := r.routes.setIfInBounds position route' }.routeAt? i = some x ∧ P x) ↔
        ∃ x, r.routeAt? i = some x ∧ P x) := by
    intro i P hP
    rw [routeAt?_amend]
    by_cases he : position = i
    · rw [← he, if_pos rfl, hfound]
      simpa using hP
    · rw [if_neg he]
  refine ⟨fun name i => ?_, hr.sorted, fun path i => ?_⟩
  · rw [hat i (·.name = name) (by rw [hk.name])]
    exact hr.names name i
  · rw [hat i (fun x => x.isStatic = true ∧ x.path = path) (by rw [hk.isStatic, hk.path])]
    exact hr.static path i

theorem consistent_of_reachable {r : Router} (h : r.Reachable) : r.Consistent := by
  refine h.invariant consistent_ofConfig fun r r' hmove hr => ?_
  cases hmove with
  | settings => exact ⟨hr.names, hr.sorted, hr.static⟩
  | enter parsed fresh => exact consistent_enter hr _ fresh
  | amend change found changed => exact consistent_amend hr found (RouteChange.apply_kept changed)

theorem Consistent.names_nodup {r : Router} (hr : r.Consistent) :
    (r.routes.toList.map Route.name).Nodup := by
  rw [List.nodup_iff_injective_getElem]
  intro a b he
  have hname : ∀ i : Fin (r.routes.toList.map Route.name).length,
      r.names[(r.routes.toList.map Route.name)[i]]? = some i.val := by
    intro i
    have hi : i.val < r.routes.size := by simpa using i.isLt
    exact (hr.names _ _).mpr ⟨r.routes[i.val], Array.getElem?_eq_getElem hi, by simp⟩
  have hab := (hname a).symm.trans ((congrArg (r.names[·]?) he).trans (hname b))
  exact Fin.ext (Option.some.inj hab)

theorem Consistent.mem_names {r : Router} (hr : r.Consistent) (name : String) :
    name ∈ r.names ↔ name ∈ r.routes.toList.map Route.name := by
  rw [Std.TreeMap.mem_iff_isSome_getElem?, Option.isSome_iff_exists]
  simp only [hr.names, List.mem_map, Array.mem_toList_iff, Array.mem_iff_getElem?]
  constructor
  · rintro ⟨i, route, hroute, rfl⟩
    exact ⟨route, ⟨i, hroute⟩, rfl⟩
  · rintro ⟨route, ⟨i, hroute⟩, rfl⟩
    exact ⟨i, route, hroute, rfl⟩

theorem Consistent.getRoute_eq_ok {r : Router} (hr : r.Consistent) {name : String} {route : Route} :
    r.getRoute name = .ok route ↔ route ∈ r.routes.toList ∧ route.name = name := by
  unfold getRoute
  constructor
  · intro h
    split at h
    · next found hfound =>
      cases h
      obtain ⟨i, hi, hat⟩ := Option.bind_eq_some_iff.mp hfound
      obtain ⟨other, hother, hn⟩ := (hr.names name i).mp hi
      rw [hat] at hother
      cases hother
      exact ⟨Array.mem_toList_iff.mpr (Array.mem_of_getElem? hat), hn⟩
    · cases h
  · rintro ⟨hm, hn⟩
    obtain ⟨i, hi⟩ := Array.mem_iff_getElem?.mp (Array.mem_toList_iff.mp hm)
    rw [(hr.names name i).mpr ⟨route, hi, hn⟩, Option.bind_some, show r.routeAt? i = some route from hi]

/-- The positions of the elements that satisfy `p`, read back from the list. -/
theorem filterMap_positions {α : Type} (p : α → Bool) (l : List α) :
    ((List.range l.length).filter fun i => l[i]?.any p).filterMap (l[·]?) = l.filter p := by
  induction l using List.reverseRecOn with
  | nil => rfl
  | append_singleton l a ih =>
    have hget : ∀ i ∈ List.range l.length, (l ++ [a])[i]? = l[i]? := fun i hi =>
      List.getElem?_append_left (List.mem_range.mp hi)
    have hold : ((List.range l.length).filter fun i => (l ++ [a])[i]?.any p).filterMap
        ((l ++ [a])[·]?) = l.filter p := by
      rw [List.filter_congr fun i hi => congrArg (Option.any p) (hget i hi), ← ih]
      exact List.filterMap_congr fun i hi => hget i (List.mem_of_mem_filter hi)
    rw [List.length_append, List.length_singleton, List.range_succ, List.filter_append,
      List.filterMap_append, hold, List.filter_append]
    by_cases hp : p a = true <;> simp [hp]

/-- The index gives the static routes at a path as a search through all routes would. -/
theorem Consistent.staticRoutesAt_eq {r : Router} (hr : r.Consistent) (uri : String) :
    r.staticRoutesAt uri =
      r.routes.toList.filter fun route => route.isStatic && route.path == uri := by
  have hpositions : r.staticIndex.getD uri [] = (List.range r.routes.toList.length).filter
      fun i => r.routes.toList[i]?.any fun route => route.isStatic && route.path == uri := by
    refine (hr.sorted uri).eq_of_mem_iff (List.pairwise_lt_range.filter _) fun i => ?_
    rw [hr.static, List.mem_filter, List.mem_range, Array.getElem?_toList, Option.any_eq_true]
    constructor
    · rintro ⟨route, hi, hs, hp⟩
      exact ⟨by simpa using routeAt?_lt hi, route, hi, by simp [hs, hp]⟩
    · rintro ⟨-, route, hi, hp⟩
      exact ⟨route, hi, by simpa using hp⟩
  unfold staticRoutesAt
  rw [hpositions]
  refine (List.filterMap_congr fun i _ => ?_).trans (filterMap_positions _ r.routes.toList)
  exact (Array.getElem?_toList).symm

theorem Consistent.getStatic_eq {r : Router} (hr : r.Consistent) (uri : String) :
    r.getStatic uri =
      match r.routes.toList.find? fun route => route.isStatic && route.path == uri with
      | some route => .ok route
      | none => .error (.staticRouteNotFound uri) := by
  unfold getStatic
  rw [hr.staticRoutesAt_eq, ← List.head?_filter]
  generalize r.routes.toList.filter (fun route => route.isStatic && route.path == uri) = found
  cases found <;> rfl

/-- The registry after any sequence of operations: names are distinct and in one-to-one
correspondence with the positions, the static index is sorted and complete, one more operation
leaves every route where and what it is, and both look-ups answer as a search through all routes. -/
theorem registry_afterAll (config : Config) (ops : List Operation) :
    let r := afterAll config ops
    (r.routes.toList.map Route.name).Nodup ∧
    (∀ (name : String) (i : Nat), r.names[name]? = some i ↔
      ∃ route : Route, r.routes[i]? = some route ∧ route.name = name) ∧
    (∀ i, i < r.routes.size ↔ ∃! name : String, r.names[name]? = some i) ∧
    (∀ path, (r.staticIndex.getD path []).Pairwise (· < ·) ∧
      ∀ i, i ∈ r.staticIndex.getD path [] ↔
        ∃ route : Route, r.routes[i]? = some route ∧ route.isStatic = true ∧ route.path = path) ∧
    (∀ (op : Operation) (i : Nat) (route : Route), r.routes[i]? = some route →
      ∃ route' : Route, (op.run r).2.routes[i]? = some route' ∧ route'.name = route.name ∧
        route'.template = route.template ∧ route'.path = route.path ∧
        route'.segments = route.segments) ∧
    (∀ name route, r.getRoute name = .ok route ↔ route ∈ r.routes.toList ∧ route.name = name) ∧
    (∀ name, (∀ route ∈ r.routes.toList, route.name ≠ name) →
      r.getRoute name = .error (.routeNotFound name)) ∧
    ∀ uri, r.getStatic uri =
      match r.routes.toList.find? fun route => route.isStatic && route.path == uri with
      | some route => .ok route
      | none => .error (.staticRouteNotFound uri) := by
  intro r
  have hr : r.Consistent := consistent_of_reachable (reachable_afterAll config ops)
  refine ⟨hr.names_nodup, hr.names, fun i => ?_, fun path => ⟨hr.sorted path, hr.static path⟩, ?_,
    fun _ _ => hr.getRoute_eq_ok, fun name hnone => ?_, hr.getStatic_eq⟩
  · constructor
    · intro hi
      refine ⟨r.routes[i].name, (hr.names _ _).mpr ⟨_, Array.getElem?_eq_getElem hi, rfl⟩, ?_⟩
      intro name hname
      obtain ⟨route, hat, hn⟩ := (hr.names name i).mp hname
      rw [← hn, ← Option.some.inj ((Array.getElem?_eq_getElem hi).symm.trans hat)]
    · rintro ⟨name, hname, -⟩
      obtain ⟨route, hat, -⟩ := (hr.names name i).mp hname
      exact routeAt?_lt hat
  · intro op i route hi
    obtain ⟨route', hi', hk⟩ := (operation_moves op r).retains i route hi
    exact ⟨route', hi', hk.name, hk.template, hk.path, hk.segments⟩
  · unfold getRoute
    cases hn : r.names[name]? with
    | none => rfl
    | some i =>
      obtain ⟨route, hat, he⟩ := (hr.names name i).mp hn
      exact absurd he (hnone route (Array.mem_toList_iff.mpr (Array.mem_of_getElem? hat)))

end Routing.Router
