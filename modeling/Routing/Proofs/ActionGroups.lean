import Routing.Proofs.KeyedLists
import Routing.Resource.Builder

/-! The actions of a resource, as a description builds them up. -/
namespace Routing

namespace Actions

/-- The steps from the path of a group to one of its actions; a bare one stands at that path. -/
def stepsOf (p : String × Action) : List String := if p.2.bare then [] else [p.1]

def at? (actions : Actions) (steps : List String) (verb : Verb) : Option (String × Action) :=
  actions.find? fun p => stepsOf p == steps && p.2.method.contains verb

/-- Each name stands once, and the bare actions are among the conventional ones. -/
structure Proper (conventional actions : Actions) : Prop where
  nodup : (actions.map Prod.fst).Nodup
  bare : ∀ p ∈ actions, p.2.bare = true → p ∈ conventional

/-- No verb belongs to two actions. -/
def Disjoint (actions : Actions) : Prop :=
  ∀ p ∈ actions, ∀ q ∈ actions, ∀ verb ∈ Verb.all,
    p.2.method.contains verb = true → q.2.method.contains verb = true → p = q

instance (actions : Actions) : Decidable actions.Disjoint :=
  inferInstanceAs (Decidable (∀ p ∈ _, ∀ q ∈ _, ∀ verb ∈ _, _ → _ → _))

namespace Proper

variable {conventional actions : Actions}

theorem filter (h : Proper conventional actions) (keep : String × Action → Bool) :
    Proper conventional (actions.filter keep) :=
  ⟨h.nodup.sublist (List.filter_sublist.map _), fun p hp => h.bare p (List.mem_filter.mp hp).1⟩

theorem put (h : Proper conventional actions) (name : String) (method : MethodMask) :
    Proper conventional (actions.put name (Resource.named method)) := by
  refine ⟨Keyed.nodup_put h.nodup name _, fun p hp hbare => ?_⟩
  rcases Keyed.mem_put hp with rfl | hold
  · cases hbare
  · exact h.bare p hold hbare

theorem eq_of_steps (h : Proper conventional actions) (hdisjoint : conventional.Disjoint)
    {p q : String × Action} (hp : p ∈ actions) (hq : q ∈ actions) (hsteps : stepsOf p = stepsOf q)
    {verb : Verb} (hpverb : p.2.method.contains verb = true)
    (hqverb : q.2.method.contains verb = true) : p = q := by
  unfold stepsOf at hsteps
  split_ifs at hsteps with hpbare hqbare hqbare
  · exact hdisjoint p (h.bare p hp hpbare) q (h.bare q hq hqbare) verb verb.mem_all hpverb hqverb
  · exact List.inj_on_of_nodup_map h.nodup hp hq (List.singleton_inj.mp hsteps)

/-- The action that answers is the only one there. -/
theorem at?_eq_some_iff (h : Proper conventional actions) (hdisjoint : conventional.Disjoint)
    {steps : List String} {verb : Verb} {p : String × Action} :
    actions.at? steps verb = some p ↔
      p ∈ actions ∧ stepsOf p = steps ∧ p.2.method.contains verb = true := by
  constructor
  · intro hfound
    have hanswers := List.find?_some hfound
    simp only [Bool.and_eq_true, beq_iff_eq] at hanswers
    exact ⟨List.mem_of_find?_eq_some hfound, hanswers⟩
  · rintro ⟨hp, hsteps, hverb⟩
    unfold at?
    cases hfound : actions.find? fun p => stepsOf p == steps && p.2.method.contains verb with
    | some q =>
      have hq := List.mem_of_find?_eq_some hfound
      have hanswers := List.find?_some hfound
      simp only [Bool.and_eq_true, beq_iff_eq] at hanswers
      rw [h.eq_of_steps hdisjoint hp hq (hsteps.trans hanswers.1.symm) hverb hanswers.2]
    | none =>
      have hrefused := List.find?_eq_none.mp hfound p hp
      simp [hsteps, hverb] at hrefused

end Proper

end Actions

namespace Resource

def bareMembers : Actions := [("show", bare .get), ("update", bare .put), ("destroy", bare .delete)]

def bareCollections : Actions := [("index", bare .get), ("create", bare .post)]

/-- A resource of many, described without an identifier pattern and without others nested in it. -/
inductive Described (singular plural : String) : Resource → Prop
  | new : Described singular plural (.new singular (some plural))
  | only {r : Resource} (h : Described singular plural r) (names : List String) :
    Described singular plural (r.only names)
  | except {r : Resource} (h : Described singular plural r) (names : List String) :
    Described singular plural (r.except names)
  | withMember {r : Resource} (h : Described singular plural r) (name : String)
    (method : MethodMask) : Described singular plural (r.withMember name method)
  | withCollection {r : Resource} (h : Described singular plural r) (name : String)
    (method : MethodMask) : Described singular plural (r.withCollection name method)
  | withParameter {r : Resource} (h : Described singular plural r) (key value : String) :
    Described singular plural (r.withParameter key value)
  | withShallow {r : Resource} (h : Described singular plural r) (shallow : Bool) :
    Described singular plural (r.withShallow shallow)

/-- What every description keeps to. -/
structure Plain (singular plural : String) (r : Resource) : Prop where
  singular : r.singular = singular
  plural : r.plural = some plural
  children : r.children = []
  idPattern : r.idPattern = none
  member : Actions.Proper bareMembers r.member
  collection : Actions.Proper bareCollections r.collection

theorem Described.plain {singular plural : String} {r : Resource} (h : Described singular plural r) :
    r.Plain singular plural := by
  induction h with
  | new =>
    have hmember : Actions.Proper bareMembers
        [("show", bare .get), ("edit", named .get), ("update", bare .put), ("destroy", bare .delete)] :=
      ⟨by decide, by decide⟩
    have hcollection : Actions.Proper bareCollections
        [("index", bare .get), ("new", named .get), ("create", bare .post)] :=
      ⟨by decide, by decide⟩
    exact ⟨rfl, rfl, rfl, rfl, hmember, hcollection⟩
  | only h names ih =>
    exact ⟨ih.singular, ih.plural, ih.children, ih.idPattern, ih.member.filter _,
      ih.collection.filter _⟩
  | except h names ih =>
    exact ⟨ih.singular, ih.plural, ih.children, ih.idPattern, ih.member.filter _,
      ih.collection.filter _⟩
  | withMember h name method ih =>
    unfold Resource.withMember
    split_ifs
    · exact ih
    · exact ⟨ih.singular, ih.plural, ih.children, ih.idPattern, ih.member.put name method,
        ih.collection⟩
  | withCollection h name method ih =>
    exact ⟨ih.singular, ih.plural, ih.children, ih.idPattern, ih.member,
      ih.collection.put name method⟩
  | withParameter h key value ih =>
    exact ⟨ih.singular, ih.plural, ih.children, ih.idPattern, ih.member, ih.collection⟩
  | withShallow h shallow ih =>
    exact ⟨ih.singular, ih.plural, ih.children, ih.idPattern, ih.member, ih.collection⟩

theorem bareMembers_disjoint : bareMembers.Disjoint := by decide

theorem bareCollections_disjoint : bareCollections.Disjoint := by decide

namespace Plain

variable {singular plural : String} {r : Resource} {steps : List String} {verb : Verb}
  {p : String × Action}

theorem member_at? (h : r.Plain singular plural) : r.member.at? steps verb = some p ↔
    p ∈ r.member ∧ Actions.stepsOf p = steps ∧ p.2.method.contains verb = true :=
  h.member.at?_eq_some_iff bareMembers_disjoint

theorem collection_at? (h : r.Plain singular plural) : r.collection.at? steps verb = some p ↔
    p ∈ r.collection ∧ Actions.stepsOf p = steps ∧ p.2.method.contains verb = true :=
  h.collection.at?_eq_some_iff bareCollections_disjoint

end Plain

end Resource
end Routing
