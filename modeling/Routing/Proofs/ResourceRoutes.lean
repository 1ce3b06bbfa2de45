import Routing.Proofs.ActionGroups
import Routing.Proofs.Candidates
import Routing.Proofs.PathSegment
import Routing.Proofs.ResourceRegistration

/-! The routes of a resource that stands by itself, action by action. -/
namespace Routing

open Actions

namespace Route

/-- The route is that of the action at the template. -/
structure Performs (route : Route) (template : String) (p : String × Action) : Prop where
  template : route.template = template
  method : route.method = some p.2.method
  action : route.defaults["action"]? = some p.1

structure OnWhole (route : Route) (plural : String) (p : String × Action) : Prop where
  performs : route.Performs (descend plural (stepsOf p)) p
  static : route.isStatic = true
  path : route.path = descend plural (stepsOf p)

structure OnMember (route : Route) (plural : String) (p : String × Action) : Prop where
  performs : route.Performs (descend plural ("\x7bid\x7d" :: stepsOf p)) p
  oneSegment : route.OneSegment (plural ++ "/") (descend "" (stepsOf p))

theorem Performs.isMethod {route : Route} {template : String} {p : String × Action}
    (h : route.Performs template p) (verb : Verb) :
    route.isMethod (some (.ofVerb verb)) = p.2.method.contains verb := by
  unfold Route.isMethod
  rw [h.method]
  cases verb <;> rfl

theorem OnMember.values?_eq_some {route : Route} {plural : String} {p : String × Action}
    (h : route.OnMember plural p) (hp : ∀ step ∈ stepsOf p, '/' ∉ step.toList) {steps : List String}
    (hsteps : ∀ step ∈ steps, '/' ∉ step.toList) {values : List String} :
    route.values? (descend plural steps) = some values ↔
      ∃ id, id ≠ "" ∧ steps = id :: stepsOf p ∧ values = [id] := by
  rw [h.oneSegment.values?_eq_some]
  constructor
  · rintro ⟨id, hid, hpath, rfl⟩
    rw [← descend_cons, descend_inj hsteps (List.forall_mem_cons.mpr ⟨hid.2, hp⟩)] at hpath
    exact ⟨id, hid.1, hpath, rfl⟩
  · rintro ⟨id, hne, rfl, rfl⟩
    exact ⟨id, ⟨hne, hsteps id List.mem_cons_self⟩, descend_cons .., rfl⟩

end Route

/-- The routes are those of the actions of the resource. -/
structure Router.Serves (router : Router) (r : Resource) (plural : String) : Prop where
  routes : ∀ route ∈ router.routes.toList,
    (∃ p ∈ r.member, route.OnMember plural p) ∨ ∃ p ∈ r.collection, route.OnWhole plural p
  member : ∀ p ∈ r.member, ∃ route ∈ router.routes.toList, route.OnMember plural p
  collection : ∀ p ∈ r.collection, ∃ route ∈ router.routes.toList, route.OnWhole plural p

namespace Router.Serves

variable {router : Router} {r : Resource} {plural : String}

theorem hidden_eq_zero (h : router.Serves r plural) :
    ∀ route ∈ router.routes.toList, route.hidden = 0 := by
  intro route hroute
  rcases h.routes route hroute with ⟨p, -, hmember⟩ | ⟨p, -, hwhole⟩
  · exact hmember.oneSegment.hidden_eq_zero
  · unfold Route.hidden
    rw [List.isEmpty_iff.mp hwhole.static]
    rfl

theorem quiet (h : router.Serves r plural) : router.Quiet := by
  intro route hroute q hq
  rcases h.routes route hroute with ⟨p, -, hmember⟩ | ⟨p, -, hwhole⟩
  · rw [hmember.oneSegment.patterns, List.mem_singleton] at hq
    rw [hq]
    exact Pattern.quiet_segment
  · rw [List.isEmpty_iff.mp hwhole.static] at hq
    cases hq

end Router.Serves

/-- The planned route is that of an action of the resource, in the group at the path. -/
structure PlannedRoute.Offers (planned : PlannedRoute) (r : Resource) (path : String)
    (p : String × Action) : Prop where
  path : planned.path = descend path (stepsOf p)
  method : planned.method = p.2.method
  patterns : planned.patterns = []
  defaults : planned.defaults = r.parameters ++ [("action", p.1)]

namespace Resource

variable {r : Resource} {singular plural : String}

/-- The routes of a group are those of its actions. -/
theorem Node.mem_group {n : Node} (hpatterns : n.patterns = []) (path name : String)
    (actions : Actions) :
    (∀ planned ∈ n.group path name actions, ∃ p ∈ actions, planned.Offers n.resource path p) ∧
      ∀ p ∈ actions, ∃ planned ∈ n.group path name actions, planned.Offers n.resource path p := by
  have hentry (taken : Bool) (p : String × Action) :
      (n.entry path name taken p.1 p.2).Offers n.resource path p := by
    refine ⟨?_, rfl, hpatterns, rfl⟩
    unfold entry stepsOf
    cases p.2.bare with
    | true => exact (descend_nil path).symm
    | false =>
      rw [← String.toList_inj]
      simp [toList_descend]
  unfold group
  constructor
  · intro planned hplanned
    obtain ⟨⟨p, i⟩, hp, rfl⟩ := List.mem_map.mp hplanned
    exact ⟨p, List.fst_mem_of_mem_zipIdx hp, hentry _ p⟩
  · intro p hp
    obtain ⟨i, hi⟩ := List.mem_iff_getElem?.mp hp
    exact ⟨_, List.mem_map.mpr ⟨(p, i), List.mem_zipIdx_iff_getElem?.mpr hi, rfl⟩, hentry _ p⟩

theorem Plain.layout (h : r.Plain singular plural) :
    r.layout = Node.memberRoutes ⟨[], r⟩ ++ Node.collectionRoutes ⟨[], r⟩ := by
  obtain ⟨_, _, _, _, _, _, _, children⟩ := r
  have hchildren : children = [] := h.children
  subst hchildren
  exact List.append_nil _

theorem Plain.patterns (h : r.Plain singular plural) : Node.patterns ⟨[], r⟩ = [] := by
  unfold Node.patterns
  rw [h.idPattern]
  rfl

theorem Plain.memberRoutes (h : r.Plain singular plural) :
    ∃ name, Node.memberRoutes ⟨[], r⟩ =
      Node.group ⟨[], r⟩ (descend plural ["\x7bid\x7d"]) name r.member := by
  have htoken : Node.token ⟨[], r⟩ = "id" := by
    unfold Node.token
    rw [h.children]
    rfl
  unfold Node.memberRoutes
  rw [h.plural, htoken]
  refine ⟨_, congrArg (Node.group _ · _ _) ?_⟩
  rw [← String.toList_inj]
  split_ifs <;> simp [toList_descend, Node.ancestorPath]

theorem Plain.collectionRoutes (h : r.Plain singular plural) :
    ∃ name, Node.collectionRoutes ⟨[], r⟩ = Node.group ⟨[], r⟩ plural name r.collection := by
  unfold Node.collectionRoutes
  rw [h.plural]
  exact ⟨_, congrArg (Node.group _ · _ _) String.empty_append⟩

end Resource

namespace PlannedRoute

variable {planned : PlannedRoute} {r : Resource} {path plural : String} {p : String × Action}
  {chunkSize : Nat} {before : List Route} {route : Route}

theorem decorate_chunkSize (uri : String) : (Router.ofConfig { chunkSize }).decorate uri = uri := by
  change "" ++ uri ++ "" = uri
  rw [String.empty_append, String.append_empty]

theorem Offers.performs (h : planned.Offers r path p) (hparameters : r.parameters.lookup "action" = none)
    (hroute : planned.Yields (.ofConfig { chunkSize }) before route) :
    route.Performs (descend path (stepsOf p)) p := by
  refine ⟨?_, hroute.method.trans (congrArg some h.method), ?_⟩
  · rw [hroute.template, decorate_chunkSize, h.path]
  · rw [hroute.defaults, h.defaults, List.lookup_append, hparameters]
    rfl

theorem Offers.parsed (h : planned.Offers r path p)
    (hroute : planned.Yields (.ofConfig { chunkSize }) before route) :
    ∃ parsed, Route.parse "[^/]+" (descend path (stepsOf p)) (some p.2.method) = .ok parsed ∧
      route.segments = parsed.segments ∧ route.patterns = parsed.patterns := by
  obtain ⟨parsed, hparse, hsegments, hpatterns⟩ := hroute.patterns
  rw [decorate_chunkSize, h.path, h.method] at hparse
  rw [h.patterns] at hpatterns
  exact ⟨parsed, hparse, hsegments, hpatterns.trans (Route.overridden_nil _)⟩

theorem Offers.onWhole (h : planned.Offers r plural p)
    (hparameters : r.parameters.lookup "action" = none)
    (hopen : '{' ∉ (descend plural (stepsOf p)).toList)
    (hroute : planned.Yields (.ofConfig { chunkSize }) before route) : route.OnWhole plural p := by
  obtain ⟨parsed, hparse, hsegments, hpatterns⟩ := h.parsed hroute
  obtain ⟨hstatic, hpath⟩ := Route.static_of_parse hopen hparse
  refine ⟨h.performs hparameters hroute, ?_, ?_⟩
  · unfold Route.isStatic
    rw [hpatterns, hstatic]
    rfl
  · rw [← hpath]
    unfold Route.path
    rw [hsegments]

theorem Offers.onMember (h : planned.Offers r (descend plural ["\x7bid\x7d"]) p)
    (hparameters : r.parameters.lookup "action" = none) (hplural : '{' ∉ plural.toList)
    (hopen : '{' ∉ (descend "" (stepsOf p)).toList)
    (hroute : planned.Yields (.ofConfig { chunkSize }) before route) : route.OnMember plural p := by
  have hpath : descend (descend plural ["\x7bid\x7d"]) (stepsOf p) =
      descend plural ("\x7bid\x7d" :: stepsOf p) := by
    rw [← String.toList_inj]
    simp [toList_descend]
  have hperforms := h.performs hparameters hroute
  obtain ⟨parsed, hparse, hsegments, hpatterns⟩ := h.parsed hroute
  rw [hpath] at hperforms
  rw [hpath, descend_cons] at hparse
  have hone := Route.oneSegment_of_parse (by simpa using hplural) (by simp) hopen hparse
  exact ⟨hperforms, hroute.wellFormed, hsegments.trans hone.segments, hpatterns.trans hone.patterns⟩

end PlannedRoute

namespace Router

/-- Registering a resource in an empty router makes the router serve it. -/
theorem serves_of_register {r : Resource} {singular plural : String}
    (hplain : r.Plain singular plural) (hplural : '{' ∉ plural.toList)
    (hnames : ∀ p ∈ r.member ++ r.collection, '{' ∉ p.1.toList)
    (hparameters : r.parameters.lookup "action" = none) {chunkSize count : Nat} {session : Session}
    (h : r.register.run (.ofConfig { chunkSize }) = (.ok count, session)) :
    session.router.Serves r plural := by
  obtain ⟨-, gained, hgained, hextended⟩ := Resource.register_layout h
  obtain ⟨memberName, hmembers⟩ := hplain.memberRoutes
  obtain ⟨collectionName, hcollections⟩ := hplain.collectionRoutes
  rw [hplain.layout, hmembers, hcollections] at hgained
  obtain ⟨hmember, hmember'⟩ := Resource.Node.mem_group hplain.patterns
    (descend plural ["\x7bid\x7d"]) memberName r.member
  obtain ⟨hcollection, hcollection'⟩ :=
    Resource.Node.mem_group hplain.patterns plural collectionName r.collection
  have hsteps {path : String} (hpath : '{' ∉ path.toList) :
      ∀ p ∈ r.member ++ r.collection, '{' ∉ (descend path (stepsOf p)).toList := by
    intro p hp
    have hname := hnames p hp
    unfold stepsOf
    split_ifs <;> simp [toList_descend, hpath, hname]
  have hempty : '{' ∉ "".toList := List.not_mem_nil
  have hroutes : session.router.routes.toList = gained := hextended.routes
  refine ⟨fun route hroute => ?_, fun p hp => ?_, fun p hp => ?_⟩
  · rw [hroutes] at hroute
    obtain ⟨planned, hplanned, before, hyields⟩ := hgained.exists_planned hroute
    rcases List.mem_append.mp hplanned with hplanned | hplanned
    · obtain ⟨p, hp, hoffers⟩ := hmember planned hplanned
      have hopen := hsteps hempty p (List.mem_append_left _ hp)
      exact .inl ⟨p, hp, hoffers.onMember hparameters hplural hopen hyields⟩
    · obtain ⟨p, hp, hoffers⟩ := hcollection planned hplanned
      have hopen := hsteps hplural p (List.mem_append_right _ hp)
      exact .inr ⟨p, hp, hoffers.onWhole hparameters hopen hyields⟩
  · obtain ⟨planned, hplanned, hoffers⟩ := hmember' p hp
    have hopen := hsteps hempty p (List.mem_append_left _ hp)
    obtain ⟨route, hroute, before, hyields⟩ :=
      hgained.exists_route (List.mem_append_left _ hplanned)
    exact ⟨route, hroutes ▸ hroute, hoffers.onMember hparameters hplural hopen hyields⟩
  · obtain ⟨planned, hplanned, hoffers⟩ := hcollection' p hp
    have hopen := hsteps hplural p (List.mem_append_right _ hp)
    obtain ⟨route, hroute, before, hyields⟩ :=
      hgained.exists_route (List.mem_append_right _ hplanned)
    exact ⟨route, hroutes ▸ hroute, hoffers.onWhole hparameters hopen hyields⟩

end Router
end Routing
