import Mathlib.Algebra.GroupWithZero.Nat
import Mathlib.Data.Finset.Basic
import Mathlib.Data.Finset.Card
import Routing.Proofs.KeyedLists
import Routing.Proofs.Outcomes
import Routing.Proofs.ResourceLayout
import Routing.Table.Loading

/-! The resources that the entries of a table describe: what each field of an entry comes to, in which
order the actions of a group stand, and how many routes there are. -/
namespace Routing

namespace Resource

theorem foldl_withMember {r : Resource} (h : r.isSingleton = false) (own : List (String × MethodMask)) :
    own.foldl (fun r (action, mask) => r.withMember action mask) r =
      { r with
        member :=
          (own.map fun p => (p.1, named p.2)).foldl (fun all p => Keyed.put all p.1 p.2) r.member } := by
  induction own generalizing r with
  | nil => cases r; rfl
  | cons pair own ih =>
    obtain ⟨action, mask⟩ := pair
    have hstep : r.withMember action mask = { r with member := r.member.put action (named mask) } := by
      unfold withMember
      rw [h, if_neg Bool.false_ne_true]
    have hnext : (r.withMember action mask).isSingleton = false := by
      rw [hstep]
      exact h
    rw [List.foldl_cons, ih hnext, hstep]
    rfl

theorem foldl_withMember_singleton {r : Resource} (h : r.isSingleton = true)
    (own : List (String × MethodMask)) :
    own.foldl (fun r (action, mask) => r.withMember action mask) r = r := by
  induction own with
  | nil => rfl
  | cons pair own ih =>
    obtain ⟨action, mask⟩ := pair
    have hstep : r.withMember action mask = r := if_pos h
    rw [List.foldl_cons]
    dsimp only
    rw [hstep, ih]

theorem foldl_withCollection (r : Resource) (own : List (String × MethodMask)) :
    own.foldl (fun r (action, mask) => r.withCollection action mask) r =
      { r with
        collection :=
          (own.map fun p => (p.1, named p.2)).foldl (fun all p => Keyed.put all p.1 p.2) r.collection } := by
  induction own generalizing r with
  | nil => cases r; rfl
  | cons pair own ih =>
    rw [List.foldl_cons, ih]
    rfl

theorem foldl_withParameter (r : Resource) (pairs : List (String × String)) :
    pairs.foldl (fun r (key, value) => r.withParameter key value) r =
      { r with parameters := pairs.foldl (fun all p => Keyed.put all p.1 p.2) r.parameters } := by
  induction pairs generalizing r with
  | nil => cases r; rfl
  | cons pair pairs ih =>
    rw [List.foldl_cons, ih]
    rfl

theorem foldl_nest (r : Resource) (children : List Resource) :
    children.foldl nest r = { r with children := r.children ++ children } := by
  induction children generalizing r with
  | nil =>
    rw [List.append_nil]
    cases r
    rfl
  | cons child children ih =>
    rw [List.foldl_cons, ih]
    simp [nest]

end Resource

namespace ResourceEntry

open Resource

/-- Whether `only` and `except` leave a conventional action. -/
def keeps (entry : ResourceEntry) (name : String) : Bool :=
  entry.only.all (·.contains name) && !entry.except.contains name

/-- The conventional actions of a group that are kept. An action that is written down takes the place of
the one of its name, and all others come after them. -/
def group (entry : ResourceEntry) (conventional : Actions) (own : List (String × MethodMask)) : Actions :=
  let kept := conventional.filter (entry.keeps ·.1)
  (kept.map fun p => (p.1, ((own.lookup p.1).map named).getD p.2)) ++
    (own.filter (·.1 ∉ kept.map Prod.fst)).map fun p => (p.1, named p.2)

/-- The resource for an entry, given the masks of its method lists and the resources nested in it. -/
def assemble (entry : ResourceEntry) (members collections : List (String × MethodMask))
    (children : List Resource) : Resource where
  singular := entry.name
  plural := entry.plural
  member :=
    if entry.plural.isSome then entry.group (Resource.new entry.name entry.plural).member members else []
  collection := entry.group (Resource.new entry.name entry.plural).collection collections
  idPattern := entry.idPattern
  shallow := entry.shallow
  parameters :=
    ("controller", entry.parameters["controller"]?.getD (camelCase (entry.plural.getD entry.name))) ::
      entry.parameters.toList.filter (·.1 ≠ "controller")
  children

/-- The masks are those of the method lists. -/
def Reads (methods : Values) (masks : List (String × MethodMask)) : Prop :=
  List.Forall₂ (fun list mask => mask.1 = list.1 ∧ MethodMask.parse list.2 = .ok mask.2)
    methods.toList masks

mutual

inductive Describes : ResourceEntry → Resource → Prop
  | assemble {entry : ResourceEntry} {members collections : List (String × MethodMask)}
    {children : List Resource} (member : Reads entry.member members)
    (collection : Reads entry.collection collections) (nested : DescribesAll entry.resources children) :
    Describes entry (entry.assemble members collections children)

inductive DescribesAll : List ResourceEntry → List Resource → Prop
  | nil : DescribesAll [] []
  | cons {entry : ResourceEntry} {r : Resource} {entries : List ResourceEntry} {rs : List Resource}
    (first : Describes entry r) (rest : DescribesAll entries rs) :
    DescribesAll (entry :: entries) (r :: rs)

end

theorem Reads.keys {methods : Values} {masks : List (String × MethodMask)} (h : Reads methods masks) :
    masks.map Prod.fst = methods.keys := by
  rw [← Std.TreeMap.map_fst_toList_eq_keys]
  unfold Reads at h
  generalize methods.toList = lists at h
  induction h with
  | nil => rfl
  | cons hhere _ ih => rw [List.map_cons, List.map_cons, hhere.1, ih]

theorem Reads.nodup {methods : Values} {masks : List (String × MethodMask)} (h : Reads methods masks) :
    (masks.map Prod.fst).Nodup := by
  rw [h.keys]
  exact Std.TreeMap.nodup_keys

theorem reads_of_actions {kind name : String} {methods : Values} {masks : List (String × MethodMask)}
    (h : actions kind name methods = .ok masks) : Reads methods masks := by
  refine (mapM_eq_ok.mp h).imp fun list mask hlist => ?_
  simp only [bind, Except.bind] at hlist
  split at hlist
  · cases hlist
  · next read hread =>
    cases hlist
    exact ⟨rfl, mapError_eq_ok.mp hread⟩

theorem foldl_put_group (entry : ResourceEntry) (conventional : Actions)
    {own : List (String × MethodMask)} (h : (own.map Prod.fst).Nodup) :
    (own.map fun p => (p.1, named p.2)).foldl (fun all p => Keyed.put all p.1 p.2)
        (conventional.filter (entry.keeps ·.1)) = entry.group conventional own := by
  have hnodup : ((own.map fun p => (p.1, named p.2)).map Prod.fst).Nodup := by
    rw [List.map_map]
    exact h
  rw [Keyed.foldl_put _ hnodup, List.filter_map]
  unfold group
  congr 1
  refine List.map_congr_left fun p _ => ?_
  rw [Keyed.lookup_map own fun _ => named]

/-- A description by `only` and `except` keeps the actions that both allow. -/
theorem filtered_eq (entry : ResourceEntry) (r : Resource) :
    ((match entry.only with
      | some names => r.only names
      | none => r).except entry.except) =
      { r with
        member := r.member.filter (entry.keeps ·.1)
        collection := r.collection.filter (entry.keeps ·.1) } := by
  unfold keeps
  cases entry.only with
  | none => simp [Resource.except]
  | some names => simp [Resource.except, Resource.only, List.filter_filter, Bool.and_comm]

theorem foldl_member_eq (entry : ResourceEntry) {members : List (String × MethodMask)}
    (h : (members.map Prod.fst).Nodup) {r : Resource} (hplural : r.plural = entry.plural)
    (hmember : r.member = (Resource.new entry.name entry.plural).member.filter (entry.keeps ·.1)) :
    members.foldl (fun r (action, mask) => r.withMember action mask) r =
      { r with
        member :=
          if entry.plural.isSome then entry.group (Resource.new entry.name entry.plural).member members
          else [] } := by
  cases hentry : entry.plural with
  | none =>
    have hsingle : r.isSingleton = true := by
      unfold isSingleton
      rw [hplural, hentry]
      rfl
    have hnone : r.member = [] := by
      rw [hmember, hentry]
      rfl
    rw [foldl_withMember_singleton hsingle, if_neg (by simp), ← hnone]
    cases r
    rfl
  | some plural =>
    have hmany : r.isSingleton = false := by
      unfold isSingleton
      rw [hplural, hentry]
      rfl
    rw [foldl_withMember hmany, hmember, foldl_put_group entry _ h, if_pos (by simp), hentry]

theorem foldl_parameter_eq (entry : ResourceEntry) :
    entry.parameters.toList.foldl (fun all p => Keyed.put all p.1 p.2)
        (Resource.new entry.name entry.plural).parameters =
      ("controller", entry.parameters["controller"]?.getD (camelCase (entry.plural.getD entry.name))) ::
        entry.parameters.toList.filter (·.1 ≠ "controller") := by
  rw [Keyed.foldl_put _ (Keyed.nodup_toList entry.parameters)]
  simp [Resource.new, Keyed.lookup_toList]

theorem toResource_ok {entry : ResourceEntry} {r : Resource} (h : entry.toResource = .ok r) :
    ∃ members collections children, Reads entry.member members ∧ Reads entry.collection collections ∧
      toResources entry.resources = .ok children ∧ r = entry.assemble members collections children := by
  obtain ⟨name, plural, only, except, shallow, idPattern, member, collection, parameters, resources⟩ :=
    entry
  let entry : ResourceEntry :=
    ⟨name, plural, only, except, shallow, idPattern, member, collection, parameters, resources⟩
  unfold toResource at h
  simp only [bind, Except.bind, pure, Except.pure] at h
  cases hmembers : actions "member" name member with
  | error e => simp [hmembers] at h
  | ok members =>
    cases hcollections : actions "collection" name collection with
    | error e => simp [hmembers, hcollections] at h
    | ok collections =>
      cases hchildren : toResources resources with
      | error e => simp [hmembers, hcollections, hchildren] at h
      | ok children =>
        simp only [hmembers, hcollections, hchildren, Except.ok.injEq] at h
        have hreads := reads_of_actions hmembers
        have hreads' := reads_of_actions hcollections
        refine ⟨members, collections, children, hreads, hreads', rfl, ?_⟩
        generalize hkept : Resource.except _ except = kept at h
        obtain rfl := hkept.symm.trans (filtered_eq entry (Resource.new name plural))
        have hmember := foldl_member_eq entry hreads.nodup (r := { Resource.new name plural with
          member := (Resource.new name plural).member.filter (entry.keeps ·.1)
          collection := (Resource.new name plural).collection.filter (entry.keeps ·.1) }) rfl rfl
        have hcollection := foldl_put_group entry (Resource.new name plural).collection hreads'.nodup
        have hparameters := foldl_parameter_eq entry
        rw [← h, hmember, foldl_withCollection, foldl_withParameter, foldl_nest]
        unfold assemble
        rw [← hcollection, ← hparameters]
        cases idPattern <;> rfl

mutual

theorem describes_of_toResource : (entry : ResourceEntry) → {r : Resource} →
    entry.toResource = .ok r → Describes entry r
  | ⟨_, _, _, _, _, _, _, _, _, resources⟩, r, h => by
    obtain ⟨members, collections, children, hmembers, hcollections, hchildren, rfl⟩ := toResource_ok h
    have hnested := describesAll_of_toResources resources hchildren
    exact .assemble hmembers hcollections hnested

theorem describesAll_of_toResources : (entries : List ResourceEntry) → {rs : List Resource} →
    toResources entries = .ok rs → DescribesAll entries rs
  | [], rs, h => by
    cases h
    exact .nil
  | entry :: entries, rs, h => by
    unfold toResources at h
    simp only [bind, Except.bind, pure, Except.pure] at h
    cases hfirst : entry.toResource with
    | error e => simp [hfirst] at h
    | ok r =>
      cases hrest : toResources entries with
      | error e => simp [hfirst, hrest] at h
      | ok rest =>
        simp only [hfirst, hrest, Except.ok.injEq] at h
        cases h
        exact .cons (describes_of_toResource entry hfirst) (describesAll_of_toResources entries hrest)

end

def keptNames (entry : ResourceEntry) (conventional : Actions) : List String :=
  (conventional.map Prod.fst).filter entry.keeps

def names (entry : ResourceEntry) (conventional : Actions) (methods : Values) : Finset String :=
  (entry.keptNames conventional).toFinset ∪ methods.keys.toFinset

mutual

/-- How many routes an entry contributes: the actions of its groups, the one on one of many only with a
plural, and the routes of the entries nested in it. -/
def routeCount : ResourceEntry → Nat
  | entry@⟨name, plural, _, _, _, _, member, collection, _, resources⟩ =>
    (if plural.isSome then (entry.names (Resource.new name plural).member member).card else 0) +
      (entry.names (Resource.new name plural).collection collection).card + routeCounts resources

def routeCounts : List ResourceEntry → Nat
  | [] => 0
  | entry :: rest => entry.routeCount + routeCounts rest

end

theorem keys_group (entry : ResourceEntry) (conventional : Actions) (own : List (String × MethodMask)) :
    (entry.group conventional own).map Prod.fst =
      entry.keptNames conventional ++ (own.map Prod.fst).filter (· ∉ entry.keptNames conventional) := by
  have hkept : (conventional.filter (entry.keeps ·.1)).map Prod.fst = entry.keptNames conventional := by
    unfold keptNames
    rw [List.filter_map]
    rfl
  unfold group
  dsimp only
  rw [hkept, List.map_append, List.map_map, List.map_map, List.filter_map, ← hkept]
  rfl

theorem length_group (entry : ResourceEntry) {conventional : Actions}
    (hconventional : (conventional.map Prod.fst).Nodup) {methods : Values}
    {own : List (String × MethodMask)} (hown : Reads methods own) :
    (entry.group conventional own).length = (entry.names conventional methods).card := by
  have hkeys := entry.keys_group conventional own
  have hnodup : ((entry.group conventional own).map Prod.fst).Nodup := by
    rw [hkeys]
    refine (hconventional.filter _).append (hown.nodup.filter _) fun name hname hother => ?_
    exact of_decide_eq_true (List.mem_filter.mp hother).2 hname
  have hnames : ((entry.group conventional own).map Prod.fst).toFinset =
      entry.names conventional methods := by
    rw [hkeys, hown.keys]
    ext name
    by_cases hname : name ∈ entry.keptNames conventional <;> simp [names, hname]
  rw [← hnames, List.toFinset_card_of_nodup hnodup, List.length_map]

/-- What is written down stays, whatever `only` and `except` say. -/
theorem mem_group (entry : ResourceEntry) (conventional : Actions) {methods : Values}
    {own : List (String × MethodMask)} (hown : Reads methods own) {p : String × MethodMask}
    (hp : p ∈ own) : (p.1, named p.2) ∈ entry.group conventional own := by
  unfold group
  dsimp only
  rw [List.mem_append]
  by_cases hkept : p.1 ∈ (conventional.filter (entry.keeps ·.1)).map Prod.fst
  · left
    obtain ⟨old, hold, hname⟩ := List.mem_map.mp hkept
    refine List.mem_map.mpr ⟨old, hold, ?_⟩
    rw [hname, Keyed.lookup_of_mem hown.nodup hp]
    rfl
  · right
    exact List.mem_map.mpr ⟨p, List.mem_filter.mpr ⟨hp, decide_eq_true hkept⟩, rfl⟩

theorem nodup_conventional (name : String) (plural : Option String) :
    ((Resource.new name plural).member.map Prod.fst).Nodup ∧
      ((Resource.new name plural).collection.map Prod.fst).Nodup := by
  cases plural <;> constructor <;> simp [Resource.new]

end ResourceEntry

namespace Resource

open Node

theorem nodes_eq (ancestors : List Resource) (r : Resource) :
    r.nodes ancestors = ⟨ancestors, r⟩ :: nodesAll (ancestors ++ [r]) r.children := by
  cases r
  rw [nodes]

/-- How many routes the resources at the nodes have. -/
def routesAt (nodes : List Node) : Nat :=
  (nodes.flatMap fun n => n.memberRoutes ++ n.collectionRoutes).length

theorem length_routes (n : Node) : (n.memberRoutes ++ n.collectionRoutes).length =
    (if n.resource.plural.isSome then n.resource.member.length else 0) + n.resource.collection.length := by
  unfold memberRoutes collectionRoutes Node.group
  cases n.resource.plural <;> simp

mutual

theorem routesAt_nodes (ancestors : List Resource) : {entry : ResourceEntry} → {r : Resource} →
    entry.Describes r → routesAt (r.nodes ancestors) = entry.routeCount
  | ⟨name, plural, only, except, shallow, idPattern, member, collection, parameters, resources⟩, _,
    @ResourceEntry.Describes.assemble _ members collections children hmember hcollection hnested => by
    let entry : ResourceEntry :=
      ⟨name, plural, only, except, shallow, idPattern, member, collection, parameters, resources⟩
    let r := entry.assemble members collections children
    obtain ⟨hmembers, hcollections⟩ := ResourceEntry.nodup_conventional name plural
    have hmemberCount : (if r.plural.isSome then r.member.length else 0) =
        if plural.isSome then (entry.names (Resource.new name plural).member member).card else 0 := by
      change (if plural.isSome then _ else _) = _
      split_ifs with hplural
      · rw [← entry.length_group hmembers hmember]
        exact congrArg List.length (if_pos hplural)
      · rfl
    have hcollectionCount : r.collection.length =
        (entry.names (Resource.new name plural).collection collection).card :=
      entry.length_group hcollections hcollection
    have hrest := routesAt_nodesAll (ancestors ++ [r]) hnested
    rw [nodes_eq, ResourceEntry.routeCount, ← hmemberCount, ← hcollectionCount, ← hrest]
    unfold routesAt
    rw [List.flatMap_cons, List.length_append, length_routes]
    rfl

theorem routesAt_nodesAll (ancestors : List Resource) : {entries : List ResourceEntry} →
    {rs : List Resource} → ResourceEntry.DescribesAll entries rs →
    routesAt (nodesAll ancestors rs) = ResourceEntry.routeCounts entries
  | _, _, .nil => rfl
  | _, _, .cons hfirst hrest => by
    rw [nodesAll, ResourceEntry.routeCounts, ← routesAt_nodes ancestors hfirst,
      ← routesAt_nodesAll ancestors hrest]
    unfold routesAt
    rw [List.flatMap_append, List.length_append]

end

/-- An entry contributes the routes of its groups and of all entries in it. -/
theorem length_layout {entry : ResourceEntry} {r : Resource} (h : entry.Describes r) :
    r.layout.length = entry.routeCount :=
  routesAt_nodes [] h

theorem length_layouts {entries : List ResourceEntry} {rs : List Resource}
    (h : List.Forall₂ ResourceEntry.Describes entries rs) :
    (rs.flatMap layout).length = (entries.map ResourceEntry.routeCount).sum := by
  induction h with
  | nil => rfl
  | cons hfirst _ ih =>
    rw [List.flatMap_cons, List.length_append, length_layout hfirst, ih, List.map_cons, List.sum_cons]

end Resource
end Routing
