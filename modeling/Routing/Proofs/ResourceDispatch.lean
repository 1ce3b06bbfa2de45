import Routing.Proofs.ResourceRoutes
import Routing.Proofs.Shadowing

/-! Requests to a resource: which of its actions answers a path and a verb. -/
namespace Routing

open Actions

/-- What a request to a resource comes to. -/
structure Target where
  /-- The template of the route. -/
  template : String
  action : String
  method : MethodMask
  /-- Which one of many is asked for. -/
  id : Option String
deriving DecidableEq, Repr

namespace Resource

/-- The action on the whole that answers a request at the steps below the path of the resource. -/
def onWhole? (r : Resource) (plural : String) (verb : Verb) (steps : List String) : Option Target :=
  (r.collection.at? steps verb).map fun p => ⟨descend plural steps, p.1, p.2.method, none⟩

/-- The action on one of many that answers it: the first step names the one. -/
def onMember? (r : Resource) (plural : String) (verb : Verb) : List String → Option Target
  | [] => none
  | id :: steps =>
    if id = "" then none
    else (r.member.at? steps verb).map fun p =>
      ⟨descend plural ("\x7bid\x7d" :: steps), p.1, p.2.method, some id⟩

/-- Actions on the whole come before those on one of many. -/
def target? (r : Resource) (plural : String) (verb : Verb) (steps : List String) : Option Target :=
  (r.onWhole? plural verb steps).or (r.onMember? plural verb steps)

end Resource

/-- The match is on the route of the target, and it carries the action and the identifier. -/
structure Match.Reaches (x : Match) (target : Target) : Prop where
  template : x.route.template = target.template
  method : x.route.method = some target.method
  action : x.parameters["action"]? = some target.action
  id : ∀ id, target.id = some id → x.parameters["id"]? = some id

namespace Router.Serves

variable {router : Router} {r : Resource} {singular plural : String} {verb : Verb}
  {steps : List String}

/-- The static route that answers is that of the action on the whole. -/
theorem staticFor?_eq_some (h : router.Serves r plural) (hplain : r.Plain singular plural)
    (hslash : ∀ p ∈ r.collection, ∀ step ∈ stepsOf p, '/' ∉ step.toList)
    (hsteps : ∀ step ∈ steps, '/' ∉ step.toList) {route : Route}
    (hroute : router.staticFor? (descend plural steps) (some (.ofVerb verb)) = some route) :
    ∃ p, r.collection.at? steps verb = some p ∧ route.OnWhole plural p := by
  have hmem := List.mem_of_find?_eq_some hroute
  have hanswers := List.find?_some hroute
  simp only [Bool.and_eq_true, beq_iff_eq] at hanswers
  obtain ⟨⟨hstatic, hpath⟩, hmethod⟩ := hanswers
  rcases h.routes route hmem with ⟨p, -, hmember⟩ | ⟨p, hp, hwhole⟩
  · rw [hmember.oneSegment.searchable.dynamic] at hstatic
    cases hstatic
  · rw [hwhole.path, descend_inj (hslash p hp) hsteps] at hpath
    rw [hwhole.performs.isMethod] at hmethod
    exact ⟨p, hplain.collection_at?.mpr ⟨hp, hpath, hmethod⟩, hwhole⟩

theorem staticFor?_eq_none (h : router.Serves r plural) (hplain : r.Plain singular plural)
    (hroute : router.staticFor? (descend plural steps) (some (.ofVerb verb)) = none) :
    r.collection.at? steps verb = none := by
  rw [Option.eq_none_iff_forall_not_mem]
  intro p hat
  obtain ⟨hp, rfl, hverb⟩ := hplain.collection_at?.mp hat
  obtain ⟨route, hmem, hwhole⟩ := h.collection p hp
  have hrefused := List.find?_eq_none.mp hroute route hmem
  rw [hwhole.static, hwhole.path, hwhole.performs.isMethod, hverb] at hrefused
  simp at hrefused

/-- A dynamic route that accepts the request is that of the action on one of many. -/
theorem of_candidate (h : router.Serves r plural) (hplain : r.Plain singular plural)
    (hslash : ∀ p ∈ r.member, ∀ step ∈ stepsOf p, '/' ∉ step.toList)
    (hsteps : ∀ step ∈ steps, '/' ∉ step.toList) {candidate : Nat × Route}
    (hcandidate : candidate ∈ router.candidates (some (.ofVerb verb))) {values : List String}
    (hvalues : candidate.2.values? (descend plural steps) = some values) :
    ∃ id p, id ≠ "" ∧ steps = id :: stepsOf p ∧ values = [id] ∧
      r.member.at? (stepsOf p) verb = some p ∧ candidate.2.OnMember plural p := by
  obtain ⟨hat, hdynamic, hmethod⟩ := mem_candidates.mp hcandidate
  rcases h.routes candidate.2 (mem_routes hat) with ⟨p, hp, hmember⟩ | ⟨p, -, hwhole⟩
  · obtain ⟨id, hne, hid, hvalue⟩ := (hmember.values?_eq_some (hslash p hp) hsteps).mp hvalues
    rw [hmember.performs.isMethod] at hmethod
    exact ⟨id, p, hne, hid, hvalue, hplain.member_at?.mpr ⟨hp, rfl, hmethod⟩, hmember⟩
  · rw [hwhole.static] at hdynamic
    cases hdynamic

theorem onMember?_eq_none (h : router.Serves r plural) (hplain : r.Plain singular plural)
    (hslash : ∀ p ∈ r.member, ∀ step ∈ stepsOf p, '/' ∉ step.toList)
    (hsteps : ∀ step ∈ steps, '/' ∉ step.toList)
    (hnone : ∀ candidate ∈ router.candidates (some (.ofVerb verb)),
      candidate.2.values? (descend plural steps) = none) :
    r.onMember? plural verb steps = none := by
  cases steps with
  | nil => rfl
  | cons id steps =>
    rw [Resource.onMember?]
    split_ifs with hid
    · rfl
    · rw [Option.map_eq_none_iff, Option.eq_none_iff_forall_not_mem]
      intro p hat
      obtain ⟨hp, rfl, hverb⟩ := hplain.member_at?.mp hat
      obtain ⟨route, hmem, hmember⟩ := h.member p hp
      obtain ⟨position, hposition⟩ := Array.mem_iff_getElem?.mp (Array.mem_toList_iff.mp hmem)
      have hrefused := hnone (position, route) (mem_candidates.mpr
        ⟨hposition, hmember.oneSegment.searchable.dynamic,
          (hmember.performs.isMethod verb).trans hverb⟩)
      have haccepted := (hmember.values?_eq_some (hslash p hp) hsteps).mpr ⟨id, hid, rfl, rfl⟩
      rw [hrefused] at haccepted
      cases haccepted

/-- The search through the routes of a resource finds the target of a request, if it has one. -/
theorem scan (h : router.Serves r plural) (hplain : r.Plain singular plural)
    (hslash : ∀ p ∈ r.member ++ r.collection, ∀ step ∈ stepsOf p, '/' ∉ step.toList)
    (hsteps : ∀ step ∈ steps, '/' ∉ step.toList) :
    Option.Rel Match.Reaches (router.scan (descend plural steps) (some (.ofVerb verb)))
      (r.target? plural verb steps) := by
  have hmember : ∀ p ∈ r.member, ∀ step ∈ stepsOf p, '/' ∉ step.toList :=
    fun p hp => hslash p (List.mem_append_left _ hp)
  have hcollection : ∀ p ∈ r.collection, ∀ step ∈ stepsOf p, '/' ∉ step.toList :=
    fun p hp => hslash p (List.mem_append_right _ hp)
  unfold Resource.target? Resource.onWhole?
  cases hstatic : router.staticFor? (descend plural steps) (some (.ofVerb verb)) with
  | some route =>
    -- A static route answers before any other one, so an action on the whole hides those on one of many.
    obtain ⟨p, hat, hwhole⟩ := h.staticFor?_eq_some hplain hcollection hsteps hstatic
    obtain ⟨-, rfl, -⟩ := hplain.collection_at?.mp hat
    rw [scan_static hstatic, hat]
    exact .some ⟨hwhole.performs.template, hwhole.performs.method, hwhole.performs.action, nofun⟩
  | none =>
    rw [h.staticFor?_eq_none hplain hstatic, Option.map_none, Option.none_or]
    by_cases haccepts : ∃ candidate ∈ router.candidates (some (.ofVerb verb)),
        candidate.2.values? (descend plural steps) ≠ none
    · obtain ⟨candidate, values, hfirst⟩ :=
        exists_firstToAccept (router.ordered_candidates _) haccepts
      obtain ⟨id, p, hne, rfl, rfl, hat, hroute⟩ :=
        h.of_candidate hplain hmember hsteps hfirst.mem hfirst.accepts
      have hnames : candidate.2.parameterNames = ["id"] := by
        unfold Route.parameterNames
        rw [hroute.oneSegment.patterns]
        rfl
      rw [scan_first hstatic hfirst, Resource.onMember?, if_neg hne, hat, hnames]
      refine .some ⟨hroute.performs.template, hroute.performs.method, ?_, ?_⟩
      · change (candidate.2.defaults.insert "id" id)["action"]? = some p.1
        rw [Std.TreeMap.getElem?_insert, if_neg (by decide)]
        exact hroute.performs.action
      · rintro _ ⟨⟩
        exact Std.TreeMap.getElem?_insert_self
    · push Not at haccepts
      rw [scan_none hstatic haccepts, h.onMember?_eq_none hplain hmember hsteps haccepts]
      exact .none

end Router.Serves

/-- A resource that was described without an identifier pattern and without others nested in it, and then
registered in an empty router, has a matcher. Each request at its path, or at any steps below it,
resolves to the action that the resource has there for the verb, and to nothing if it has none. -/
theorem Resource.matchPath_target {r : Resource} {singular plural : String}
    (hr : r.Described singular plural) (hplural : '{' ∉ plural.toList)
    (hnames : ∀ p ∈ r.member ++ r.collection, '{' ∉ p.1.toList ∧ '/' ∉ p.1.toList)
    (hparameters : ∀ p ∈ r.parameters, p.1 ≠ "action") {chunkSize count : Nat} {session : Session}
    (h : r.register.run (.ofConfig { chunkSize }) = (.ok count, session)) :
    ∃ m, Matcher.ofRouter session.router = .ok m ∧
      ∀ (verb : Verb) (steps : List String), (∀ step ∈ steps, '/' ∉ step.toList) →
        Option.Rel Match.Reaches (m.matchPath (descend plural steps) (some (.ofVerb verb)))
          (r.target? plural verb steps) := by
  have hplain := hr.plain
  have hlookup : r.parameters.lookup "action" = none := by
    rw [List.lookup_eq_none_iff]
    exact fun p hp => by simpa using (hparameters p hp).symm
  have hserves := Router.serves_of_register hplain hplural (fun p hp => (hnames p hp).1) hlookup h
  have hreachable : session.router.Reachable := by
    have hrun := (Router.Reachable.new { chunkSize }).operate (.register r)
    simpa only [Operation.run, h] using hrun
  obtain ⟨m, hm⟩ := Matcher.exists_ofRouter hreachable hserves.quiet hserves.hidden_eq_zero
  refine ⟨m, hm, fun verb steps hsteps => ?_⟩
  have hslash : ∀ p ∈ r.member ++ r.collection, ∀ step ∈ stepsOf p, '/' ∉ step.toList := by
    intro p hp step hstep
    unfold stepsOf at hstep
    split_ifs at hstep
    · cases hstep
    · rw [List.mem_singleton.mp hstep]
      exact (hnames p hp).2
  have hundisturbed := Matcher.undisturbed_of_hidden hserves.hidden_eq_zero (descend plural steps)
    (some (.ofVerb verb))
  rw [(Matcher.matchPath_iff hreachable hserves.quiet hm).mpr hundisturbed]
  exact hserves.scan hplain hslash hsteps

/-- Posts that can be read, updated, published and searched. A post whose identifier is `search` is still
updated under it. -/
theorem Resource.matchPath_target_posts :
    let posts := (((new "post" (some "posts")).only ["index", "show", "update"]).withMember "publish" .post)
      |>.withCollection "search" .get
    ∃ m, Matcher.ofRouter (posts.register.run (.ofConfig { chunkSize := 2 })).2.router = .ok m ∧
      Option.Rel Match.Reaches (m.matchPath "posts/7/publish" (some .post))
        (some ⟨"posts/\x7bid\x7d/publish", "publish", .post, some "7"⟩) ∧
      Option.Rel Match.Reaches (m.matchPath "posts/search" (some .get))
        (some ⟨"posts/search", "search", .get, none⟩) ∧
      Option.Rel Match.Reaches (m.matchPath "posts/search" (some .put))
        (some ⟨"posts/\x7bid\x7d", "update", .put, some "search"⟩) ∧
      Option.Rel Match.Reaches (m.matchPath "posts/7" (some .delete)) none := by
  intro posts
  have hdescribed : posts.Described "post" "posts" :=
    .withCollection (.withMember (.only .new ["index", "show", "update"]) "publish" .post) "search" .get
  have hcount : (posts.register.run (.ofConfig { chunkSize := 2 })).1.toOption = some 5 := by
    decide +kernel
  have hrun := eq_of_toOption hcount
  obtain ⟨m, hm, htarget⟩ := matchPath_target hdescribed (by decide +kernel) (by decide +kernel)
    (by decide +kernel) hrun
  have hrequest (path : String) (verb : Verb) (steps : List String) (target : Option Target)
      (h : descend "posts" steps = path ∧ (∀ step ∈ steps, '/' ∉ step.toList) ∧
        posts.target? "posts" verb steps = target) :
      Option.Rel Match.Reaches (m.matchPath path (some (.ofVerb verb))) target := by
    rw [← h.1, ← h.2.2]
    exact htarget verb steps h.2.1
  refine ⟨m, hm, ?_, ?_, ?_, ?_⟩
  · exact hrequest _ .post ["7", "publish"] _ (by decide +kernel)
  · exact hrequest _ .get ["search"] _ (by decide +kernel)
  · exact hrequest _ .put ["search"] _ (by decide +kernel)
  · exact hrequest _ .delete ["7"] _ (by decide +kernel)

end Routing
