import Mathlib.Data.List.Basic
import Mathlib.Tactic.SplitIfs
import Routing.Resource.Expansion

/-! The routes of a tree of resources, laid out node by node: where each of them stands and what it is
called, in terms of the resources around it. -/
namespace Routing

namespace Resource

/-- A resource of a tree, with those around it, the outermost first. -/
structure Node where
  ancestors : List Resource
  resource : Resource

mutual

/-- All resources of a tree, each before those nested in it. -/
def nodes (ancestors : List Resource) : Resource → List Node
  | r@⟨_, _, _, _, _, _, _, children⟩ => ⟨ancestors, r⟩ :: nodesAll (ancestors ++ [r]) children

def nodesAll (ancestors : List Resource) : List Resource → List Node
  | [] => []
  | r :: rest => nodes ancestors r ++ nodesAll ancestors rest

end

namespace Node

def stepOf (ancestor : Resource) : String :=
  match ancestor.plural with
  | some plural => plural ++ "/\x7b" ++ ancestor.singular ++ "_id\x7d/"
  | none => ancestor.singular ++ "/"

def ancestorPath (n : Node) : String := String.join (n.ancestors.map stepOf)

def ancestorName (n : Node) : String := String.join (n.ancestors.map (·.singular ++ "_"))

def token (n : Node) : String :=
  if n.resource.children.isEmpty then "id" else n.resource.singular ++ "_id"

/-- The patterns of all identifiers, the outermost first. -/
def patterns (n : Node) : List (String × String) :=
  (n.ancestors.filterMap fun a => a.idPattern.map (a.singular ++ "_id", ·)) ++
    (n.resource.idPattern.map (n.token, ·)).toList

/-- An action of a group at a path and under a name. Of the actions that stand at the path itself only
the first takes that name. -/
def entry (n : Node) (path name : String) (taken : Bool) (key : String) (action : Action) :
    PlannedRoute where
  path := if action.bare then path else path ++ "/" ++ key
  method := action.method
  name := if action.bare then (if taken then none else some name) else some (key ++ "_" ++ name)
  patterns := n.patterns
  defaults := n.resource.parameters ++ [("action", key)]

def group (n : Node) (path name : String) (actions : Actions) : List PlannedRoute :=
  actions.zipIdx.map fun ((key, action), i) =>
    n.entry path name ((actions.take i).any (·.2.bare)) key action

/-- A route of a group is that of an action, at the path of the group or one step below. -/
theorem of_mem_group {n : Node} {path name : String} {actions : Actions} {planned : PlannedRoute}
    (h : planned ∈ n.group path name actions) :
    ∃ p ∈ actions, planned.path = path ++ (if p.2.bare then "" else "/" ++ p.1) ∧
      planned.patterns = n.patterns := by
  obtain ⟨⟨p, i⟩, hp, rfl⟩ := List.mem_map.mp h
  refine ⟨p, List.fst_mem_of_mem_zipIdx hp, ?_, rfl⟩
  cases hbare : p.2.bare <;> simp [entry, hbare, String.append_assoc]

def memberRoutes (n : Node) : List PlannedRoute :=
  match n.resource.plural with
  | none => []
  | some plural =>
    n.group ((if n.resource.shallow then "" else n.ancestorPath) ++ plural ++ "/\x7b" ++ n.token ++ "\x7d")
      ((if n.resource.shallow then "" else n.ancestorName) ++ n.resource.singular) n.resource.member

def collectionRoutes (n : Node) : List PlannedRoute :=
  let root := n.resource.plural.getD n.resource.singular
  n.group (n.ancestorPath ++ root) (n.ancestorName ++ root) n.resource.collection

end Node

/-- The routes of a tree. -/
def layout (r : Resource) : List PlannedRoute :=
  (r.nodes []).flatMap fun n => n.memberRoutes ++ n.collectionRoutes

end Resource

/-- The route that a step of a plan enters. -/
def PlanStep.planned? : PlanStep → Option PlannedRoute
  | route planned => some planned
  | finished .. => none

namespace Resource

open Node

/-- What the resources in a list contribute to those nested in all of them. -/
def around (ancestors : List Resource) : Scope where
  path := String.join (ancestors.map stepOf)
  name := String.join (ancestors.map (·.singular ++ "_"))
  patterns := ancestors.filterMap fun a => a.idPattern.map (a.singular ++ "_id", ·)
  depth := ancestors.length

theorem token_eq (n : Node) : n.token = n.resource.idToken := by
  unfold token idToken isParent
  cases n.resource.children.isEmpty <;> rfl

theorem idToken_of_ne_nil {r : Resource} (h : r.children ≠ []) : r.idToken = r.singular ++ "_id" := by
  unfold idToken isParent
  rw [if_pos]
  simpa using h

theorem pathStep_eq {r : Resource} (h : r.children ≠ []) : r.pathStep = stepOf r := by
  unfold pathStep stepOf
  cases r.plural with
  | none => rfl
  | some plural =>
    rw [idToken_of_ne_nil h, ← String.toList_inj]
    simp [Segment.display]

theorem ownPatterns_eq (r : Resource) :
    r.ownPatterns = (r.idPattern.map (r.idToken, ·)).toList := by
  unfold ownPatterns
  cases r.idPattern <;> rfl

theorem innerScope_around {r : Resource} (h : r.children ≠ []) (ancestors : List Resource) :
    innerScope (around ancestors) r = around (ancestors ++ [r]) := by
  have hpatterns : r.ownPatterns =
      [r].filterMap fun a => a.idPattern.map (a.singular ++ "_id", ·) := by
    rw [ownPatterns_eq, idToken_of_ne_nil h, List.filterMap_cons]
    cases r.idPattern <;> rfl
  unfold innerScope around
  rw [pathStep_eq h, hpatterns]
  simp [String.append_assoc]

theorem groupRoutes_eq (n : Node) (path name : String) (taken : Bool) (actions : Actions) :
    n.resource.groupRoutes n.patterns path name taken actions =
      actions.zipIdx.map fun ((key, action), i) =>
        n.entry path name (taken || (actions.take i).any (·.2.bare)) key action := by
  induction actions generalizing taken with
  | nil => rfl
  | cons pair actions ih =>
    obtain ⟨key, action⟩ := pair
    rw [groupRoutes, ih, List.zipIdx_cons, List.map_cons, Nat.zero_add, List.zipIdx_succ, List.map_map]
    congr 1
    · cases hbare : action.bare <;> simp [entry, hbare]
    · refine List.map_congr_left fun ⟨⟨other, kind⟩, i⟩ _ => ?_
      exact congrArg (n.entry path name · other kind) (Bool.or_assoc _ _ _)

/-- The routes of a resource are those that its group asks for, wherever it stands. -/
theorem ownRoutes_eq (n : Node) :
    n.resource.ownRoutes (around n.ancestors) = n.memberRoutes ++ n.collectionRoutes := by
  have hpatterns : (around n.ancestors).patterns ++ n.resource.ownPatterns = n.patterns := by
    rw [ownPatterns_eq, ← token_eq]
    rfl
  have hgroup (path name : String) (actions : Actions) :
      n.resource.groupRoutes n.patterns path name false actions = n.group path name actions := by
    rw [groupRoutes_eq]
    simp only [Bool.false_or]
    rfl
  have hcollection : n.resource.groupRoutes n.patterns
      ((around n.ancestors).path ++ n.resource.plural.getD n.resource.singular)
      ((around n.ancestors).name ++ n.resource.plural.getD n.resource.singular) false
      n.resource.collection = n.collectionRoutes := hgroup _ _ _
  unfold ownRoutes memberRoutes
  dsimp only
  rw [hpatterns, hcollection]
  congr 1
  cases n.resource.plural with
  | none => rfl
  | some plural =>
    dsimp only
    rw [hgroup, ← token_eq]
    have hpath (before : String) :
        before ++ plural ++ "/" ++ (Segment.param n.token).display =
          before ++ plural ++ "/\x7b" ++ n.token ++ "\x7d" := by
      rw [← String.toList_inj]
      simp [Segment.display]
    rw [hpath]
    split_ifs <;> rfl

mutual

/-- The plan enters the routes of the nodes one after the other. -/
theorem plan_routes (ancestors : List Resource) : (r : Resource) →
    (plan (around ancestors) r).filterMap PlanStep.planned? =
      (nodes ancestors r).flatMap fun n => n.memberRoutes ++ n.collectionRoutes
  | ⟨singular, plural, collection, member, idPattern, shallow, parameters, children⟩ => by
    let r : Resource :=
      ⟨singular, plural, collection, member, idPattern, shallow, parameters, children⟩
    have hown : (((r.ownRoutes (around ancestors)).map PlanStep.route).filterMap PlanStep.planned?) =
        r.ownRoutes (around ancestors) := by
      rw [List.filterMap_map]
      exact List.filterMap_some
    have hinner : children ≠ [] → innerScope (around ancestors) r = around (ancestors ++ [r]) :=
      fun h => innerScope_around h ancestors
    have hhere := ownRoutes_eq ⟨ancestors, r⟩
    have hrest := planAll_routes (ancestors ++ [r]) (innerScope (around ancestors) r) children hinner
    rw [plan, nodes, List.filterMap_append, List.filterMap_cons, List.flatMap_cons]
    dsimp only [PlanStep.planned?]
    rw [hown, hrest, hhere]

theorem planAll_routes (ancestors : List Resource) (scope : Scope) : (resources : List Resource) →
    (resources ≠ [] → scope = around ancestors) →
    (planAll scope resources).filterMap PlanStep.planned? =
      (nodesAll ancestors resources).flatMap fun n => n.memberRoutes ++ n.collectionRoutes
  | [], _ => rfl
  | r :: rest, h => by
    have hscope := h (List.cons_ne_nil r rest)
    rw [planAll, nodesAll, List.filterMap_append, List.flatMap_append,
      planAll_routes ancestors scope rest fun _ => hscope, hscope, plan_routes ancestors r]

end

mutual

/-- The resources around one in a tree are those that the tree stands in, and resources of the tree that
others are nested in. -/
theorem ancestors_of_mem_nodes (ancestors : List Resource) : (r : Resource) →
    ∀ n ∈ nodes ancestors r, ∀ a ∈ n.ancestors, a ∈ ancestors ∨
      a.children ≠ [] ∧ ∃ m ∈ nodes ancestors r, m.resource = a
  | ⟨singular, plural, collection, member, idPattern, shallow, parameters, children⟩ => by
    let r : Resource :=
      ⟨singular, plural, collection, member, idPattern, shallow, parameters, children⟩
    intro n hn a ha
    rw [nodes] at hn ⊢
    rcases List.mem_cons.mp hn with rfl | hinner
    · exact .inl ha
    · rcases ancestors_of_mem_nodesAll (ancestors ++ [r]) children n hinner a ha with
        hout | ⟨hparent, m, hm, hresource⟩
      · rcases List.mem_append.mp hout with hout | hself
        · exact .inl hout
        · have hchildren : children ≠ [] := by
            rintro rfl
            rw [nodesAll] at hinner
            cases hinner
          cases List.mem_singleton.mp hself
          exact .inr ⟨hchildren, ⟨ancestors, r⟩, List.mem_cons_self, rfl⟩
      · exact .inr ⟨hparent, m, List.mem_cons_of_mem _ hm, hresource⟩

theorem ancestors_of_mem_nodesAll (ancestors : List Resource) : (resources : List Resource) →
    ∀ n ∈ nodesAll ancestors resources, ∀ a ∈ n.ancestors, a ∈ ancestors ∨
      a.children ≠ [] ∧ ∃ m ∈ nodesAll ancestors resources, m.resource = a
  | [] => by simp [nodesAll]
  | r :: rest => by
    intro n hn a ha
    rw [nodesAll] at hn ⊢
    rcases List.mem_append.mp hn with hn | hn
    · rcases ancestors_of_mem_nodes ancestors r n hn a ha with hout | ⟨hparent, m, hm, hresource⟩
      · exact .inl hout
      · exact .inr ⟨hparent, m, List.mem_append_left _ hm, hresource⟩
    · rcases ancestors_of_mem_nodesAll ancestors rest n hn a ha with hout | ⟨hparent, m, hm, hresource⟩
      · exact .inl hout
      · exact .inr ⟨hparent, m, List.mem_append_right _ hm, hresource⟩

end

/-- The plan of a tree is its layout. -/
theorem plan_eq_layout (r : Resource) : (r.plan {}).filterMap PlanStep.planned? = r.layout :=
  plan_routes [] r

end Resource
end Routing
