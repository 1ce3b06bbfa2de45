import Routing.Proofs.DisplayedTemplates
import Routing.Proofs.ResourceRegistration

/-! The patterns of identifiers in the routes of a tree of resources: which resource's pattern each
placeholder for an identifier gets. -/
namespace Routing

namespace Resource

/-- No name of the resource or of an action of it holds a brace. -/
def Braceless (r : Resource) : Prop :=
  ('{' ∉ r.singular.toList ∧ '}' ∉ r.singular.toList) ∧
  (∀ plural ∈ r.plural, '{' ∉ plural.toList ∧ '}' ∉ plural.toList) ∧
  ∀ p ∈ r.member ++ r.collection, '{' ∉ p.1.toList ∧ '}' ∉ p.1.toList

instance (r : Resource) : Decidable r.Braceless := by
  unfold Braceless
  infer_instance

theorem closable_token {name : List Char} (h : '{' ∉ name ∧ '}' ∉ name) :
    Placeholder.Closable (name ++ ['_', 'i', 'd']) := by
  refine ⟨by simp [h.1], by simp [h.2], ?_⟩
  rw [List.getLast?_append]
  simp

/-- The parameter of an identifier can stand between braces. -/
theorem Braceless.closable {r : Resource} (h : r.Braceless) : Placeholder.Closable r.idToken.toList := by
  unfold idToken
  split_ifs
  · rw [String.toList_append]
    exact closable_token h.1
  · exact ⟨by decide, by decide, by decide⟩

/-- The pattern that the resource has for its identifier, under its parameter. -/
def given? (r : Resource) : Option (String × String) := r.idPattern.map (r.idToken, ·)

theorem given?_eq_some {r : Resource} {token pattern : String} :
    r.given? = some (token, pattern) ↔ r.idToken = token ∧ r.idPattern = some pattern := by
  unfold given?
  rw [Option.map_eq_some_iff]
  constructor
  · rintro ⟨own, hown, hpair⟩
    obtain ⟨htoken, rfl⟩ := Prod.mk.inj hpair
    exact ⟨htoken, hown⟩
  · rintro ⟨rfl, hown⟩
    exact ⟨pattern, hown, rfl⟩

namespace Node

/-- The resources around this one, and the resource itself as the innermost. -/
def line (n : Node) : List Resource := n.ancestors ++ [n.resource]

/-- The resources around this one whose identifiers stand in the paths below them. -/
def outerOwners (n : Node) : List Resource := n.ancestors.filter (·.plural.isSome)

/-- The resources whose identifiers stand in the paths of member routes. -/
def memberOwners (n : Node) : List Resource :=
  (if n.resource.shallow then [] else n.outerOwners) ++ [n.resource]

/-- Of the resources on the line whose identifier has the token, the innermost one with a pattern has this
one. -/
def Rules (n : Node) (token pattern : String) : Prop :=
  ∃ outer ruler inner, n.line = outer ++ ruler :: inner ∧ ruler.idToken = token ∧
    ruler.idPattern = some pattern ∧ ∀ r ∈ inner, r.idToken = token → r.idPattern = none

/-- The parameter that stands for the identifier of a resource in the routes of the node. Its pattern is the
one that rules its name, or else the default one, if it does not bring one itself. -/
def ruled? (n : Node) (defaultPattern : String) (owner : Resource) : Option (String × String) :=
  (Route.parameter? defaultPattern owner.idToken).map fun p =>
    (p.1, (n.patterns.reverse.lookup p.1).getD p.2)

end Node

/-- A route of the layout with the node that asks for it and the resources whose identifiers stand in its
path. -/
structure Placement where
  node : Node
  owners : List Resource
  planned : PlannedRoute

def Node.placements (n : Node) : List Placement :=
  n.memberRoutes.map (⟨n, n.memberOwners, ·⟩) ++ n.collectionRoutes.map (⟨n, n.outerOwners, ·⟩)

/-- The routes of a tree in the order of its layout. -/
def placements (r : Resource) : List Placement := (r.nodes []).flatMap Node.placements

theorem map_placements (r : Resource) : r.placements.map Placement.planned = r.layout := by
  unfold placements layout
  rw [List.map_flatMap]
  refine List.flatMap_congr fun n _ => ?_
  unfold Node.placements
  rw [List.map_append, List.map_map, List.map_map]
  exact congrArg₂ (· ++ ·) (List.map_id _) (List.map_id _)

/-- The node stands in a tree: those around its resource have resources nested in them, and all names are
without braces. -/
structure Node.Sound (n : Node) : Prop where
  parents : ∀ a ∈ n.ancestors, a.children ≠ []
  braceless : ∀ r ∈ n.line, r.Braceless

theorem sound_of_mem_nodes {resource : Resource} (h : ∀ n ∈ resource.nodes [], n.resource.Braceless)
    {n : Node} (hn : n ∈ resource.nodes []) : n.Sound := by
  have hancestors (a : Resource) (ha : a ∈ n.ancestors) : a.children ≠ [] ∧ a.Braceless := by
    rcases ancestors_of_mem_nodes [] resource n hn a ha with hnone | ⟨hparent, m, hm, rfl⟩
    · cases hnone
    · exact ⟨hparent, h m hm⟩
  refine ⟨fun a ha => (hancestors a ha).1, fun r hr => ?_⟩
  rcases List.mem_append.mp hr with ha | hself
  · exact (hancestors r ha).2
  · rw [List.mem_singleton.mp hself]
    exact h n hn

namespace Node

variable {n : Node}

/-- All patterns of identifiers stand under their tokens, the outermost first. -/
theorem Sound.patterns (h : n.Sound) : n.patterns = n.line.filterMap given? := by
  have houter : (n.ancestors.filterMap fun a => a.idPattern.map (a.singular ++ "_id", ·)) =
      n.ancestors.filterMap given? := by
    refine List.filterMap_congr fun a ha => ?_
    unfold given?
    rw [idToken_of_ne_nil (h.parents a ha)]
  unfold Node.patterns line
  rw [houter, token_eq, List.filterMap_append]
  congr 1

theorem Sound.rules_iff (h : n.Sound) {token pattern : String} :
    n.Rules token pattern ↔ Keyed.Last n.patterns token pattern := by
  rw [h.patterns]
  constructor
  · rintro ⟨outer, ruler, inner, hline, htoken, hpattern, hinner⟩
    refine ⟨outer.filterMap given?, inner.filterMap given?, ?_, fun hmem => ?_⟩
    · rw [hline, List.filterMap_append,
        List.filterMap_cons_some (given?_eq_some.mpr ⟨htoken, hpattern⟩)]
    · obtain ⟨p, hp, rfl⟩ := List.mem_map.mp hmem
      obtain ⟨r, hr, hgiven⟩ := List.mem_filterMap.mp hp
      obtain ⟨hsame, hother⟩ := given?_eq_some.mp hgiven
      rw [hinner r hr hsame] at hother
      cases hother
  · rintro ⟨before, after, hsplit, hafter⟩
    obtain ⟨outer, rest, hline, -, hrest⟩ := List.filterMap_eq_append_iff.mp hsplit
    obtain ⟨between, ruler, inner, rfl, -, hruler, rfl⟩ := List.filterMap_eq_cons_iff.mp hrest
    obtain ⟨htoken, hpattern⟩ := given?_eq_some.mp hruler
    refine ⟨outer ++ between, ruler, inner, by rw [hline, List.append_assoc], htoken, hpattern, ?_⟩
    intro r hr hsame
    by_contra hsome
    obtain ⟨other, hother⟩ := Option.ne_none_iff_exists'.mp hsome
    have hgiven := given?_eq_some.mpr ⟨hsame, hother⟩
    exact hafter (List.mem_map_of_mem (List.mem_filterMap.mpr ⟨r, hr, hgiven⟩))

theorem Sound.lookup_eq_some (h : n.Sound) {token pattern : String} :
    n.patterns.reverse.lookup token = some pattern ↔ n.Rules token pattern := by
  rw [Keyed.lookup_reverse_eq_some, h.rules_iff]

/-- Without a pattern for the token no resource on the line has one. -/
theorem Sound.lookup_eq_none (h : n.Sound) {token : String} :
    n.patterns.reverse.lookup token = none ↔ ∀ r ∈ n.line, r.idToken = token → r.idPattern = none := by
  rw [Keyed.lookup_reverse_eq_none, h.patterns]
  constructor
  · intro hnone r hr htoken
    by_contra hsome
    obtain ⟨pattern, hpattern⟩ := Option.ne_none_iff_exists'.mp hsome
    have hgiven := given?_eq_some.mpr ⟨htoken, hpattern⟩
    exact hnone (List.mem_map_of_mem (List.mem_filterMap.mpr ⟨r, hr, hgiven⟩))
  · intro hnone hmem
    obtain ⟨p, hp, rfl⟩ := List.mem_map.mp hmem
    obtain ⟨r, hr, hgiven⟩ := List.mem_filterMap.mp hp
    obtain ⟨htoken, hpattern⟩ := given?_eq_some.mp hgiven
    rw [hnone r hr htoken] at hpattern
    cases hpattern

end Node

/-- The text displays segments, in which the identifiers of the given resources stand one after the other
and which hold no other braces. -/
def Shows (text : String) (owners : List Resource) : Prop :=
  ∃ segments : List Segment, text = String.join (segments.map Segment.display) ∧
    (∀ s ∈ segments, s.Clear) ∧
    ∀ defaultPattern, segments.filterMap (Segment.read? defaultPattern) =
      owners.filterMap fun owner => Route.parameter? defaultPattern owner.idToken

namespace Shows

variable {text other : String} {owners others : List Resource}

theorem empty : Shows "" [] := ⟨[], rfl, by simp, fun _ => rfl⟩

theorem literal (h : '{' ∉ text.toList) : Shows text [] := by
  refine ⟨[.literal text], by simp [Segment.display], ?_, fun _ => rfl⟩
  rw [List.forall_mem_singleton]
  exact h

theorem identifier {r : Resource} (h : r.Braceless) : Shows (Segment.param r.idToken).display [r] := by
  refine ⟨[.param r.idToken], by simp, ?_, fun _ => rfl⟩
  rw [List.forall_mem_singleton]
  exact h.closable

theorem append (h : Shows text owners) (h' : Shows other others) :
    Shows (text ++ other) (owners ++ others) := by
  obtain ⟨segments, htext, hclear, howners⟩ := h
  obtain ⟨rest, hother, hrest, hothers⟩ := h'
  refine ⟨segments ++ rest, ?_, List.forall_mem_append.mpr ⟨hclear, hrest⟩, fun defaultPattern => ?_⟩
  · rw [htext, hother, List.map_append, String.join_append]
  · rw [List.filterMap_append, howners, hothers, List.filterMap_append]

theorem append_literal (h : Shows text owners) (h' : '{' ∉ other.toList) :
    Shows (text ++ other) owners := by
  have hall := h.append (literal h')
  rwa [List.append_nil] at hall

/-- What is read from the text are the parameters of the identifiers. -/
theorem fragments (h : Shows text owners) (defaultPattern : String) :
    Route.fragments defaultPattern text =
      owners.filterMap fun owner => Route.parameter? defaultPattern owner.idToken := by
  obtain ⟨segments, htext, hclear, howners⟩ := h
  rw [htext, Route.fragments_display defaultPattern hclear, howners]

end Shows

theorem Braceless.shows_identifier {r : Resource} (h : r.Braceless) {plural : String}
    (hplural : r.plural = some plural) :
    Shows (plural ++ "/" ++ (Segment.param r.idToken).display) [r] := by
  have hname := (h.2.1 plural hplural).1
  have hopen : '{' ∉ (plural ++ "/").toList := by simpa using hname
  exact (Shows.literal hopen).append (Shows.identifier h)

theorem Braceless.shows_stepOf {a : Resource} (h : a.Braceless) (hparent : a.children ≠ []) :
    Shows (Node.stepOf a) ([a].filter (·.plural.isSome)) := by
  unfold Node.stepOf
  cases hplural : a.plural with
  | none =>
    have hopen : '{' ∉ (a.singular ++ "/").toList := by simpa using h.1.1
    simpa [hplural] using Shows.literal hopen
  | some plural =>
    have hslash : '{' ∉ "/".toList := by decide
    have hshows := (h.shows_identifier hplural).append_literal hslash
    have htext : plural ++ "/" ++ (Segment.param a.idToken).display ++ "/" =
        plural ++ "/\x7b" ++ a.singular ++ "_id\x7d/" := by
      rw [idToken_of_ne_nil hparent, ← String.toList_inj]
      simp [Segment.display]
    rw [htext] at hshows
    simpa [hplural] using hshows

/-- Around a resource, the identifiers of the resources with a plural stand in the path. -/
theorem shows_steps {ancestors : List Resource} (hbraceless : ∀ a ∈ ancestors, a.Braceless)
    (hparents : ∀ a ∈ ancestors, a.children ≠ []) :
    Shows (String.join (ancestors.map Node.stepOf)) (ancestors.filter (·.plural.isSome)) := by
  induction ancestors with
  | nil => exact .empty
  | cons a ancestors ih =>
    rw [List.forall_mem_cons] at hbraceless hparents
    rw [List.map_cons, String.join_cons, ← List.singleton_append, List.filter_append]
    exact (hbraceless.1.shows_stepOf hparents.1).append (ih hbraceless.2 hparents.2)

namespace Node

variable {n : Node}

theorem Sound.shows_ancestorPath (h : n.Sound) : Shows n.ancestorPath n.outerOwners :=
  shows_steps (fun a ha => h.braceless a (List.mem_append_left _ ha)) h.parents

theorem Sound.shows_group (h : n.Sound) {path name : String} {owners : List Resource}
    (hpath : Shows path owners) {actions : Actions}
    (hactions : ∀ p ∈ actions, p ∈ n.resource.member ++ n.resource.collection) {planned : PlannedRoute}
    (hplanned : planned ∈ n.group path name actions) :
    Shows planned.path owners ∧ planned.patterns = n.patterns := by
  obtain ⟨p, hp, hplace, hpatterns⟩ := of_mem_group hplanned
  have hself : n.resource ∈ n.line := List.mem_append_right _ (List.mem_singleton_self _)
  have hkey := ((h.braceless _ hself).2.2 p (hactions p hp)).1
  have hopen : '{' ∉ (if p.2.bare then "" else "/" ++ p.1).toList := by
    split_ifs
    · exact List.not_mem_nil
    · simpa using hkey
  rw [hplace]
  exact ⟨hpath.append_literal hopen, hpatterns⟩

/-- In the path of each route stand the identifiers of its owners. -/
theorem Sound.shows (h : n.Sound) {x : Placement} (hx : x ∈ n.placements) :
    x.node = n ∧ Shows x.planned.path x.owners ∧ x.planned.patterns = n.patterns ∧
      ∀ owner ∈ x.owners, owner ∈ n.line := by
  have hself : n.resource ∈ n.line := List.mem_append_right _ (List.mem_singleton_self _)
  have hname := (h.braceless _ hself).2.1
  have houter : ∀ owner ∈ n.outerOwners, owner ∈ n.line := fun owner howner =>
    List.mem_append_left _ (List.mem_of_mem_filter howner)
  rcases List.mem_append.mp hx with hmember | hcollection
  · obtain ⟨planned, hplanned, rfl⟩ := List.mem_map.mp hmember
    unfold memberRoutes at hplanned
    split at hplanned
    · cases hplanned
    · next plural hplural =>
      have hbefore : Shows (if n.resource.shallow then "" else n.ancestorPath)
          (if n.resource.shallow then [] else n.outerOwners) := by
        split_ifs
        · exact .empty
        · exact h.shows_ancestorPath
      have hpath := hbefore.append ((h.braceless _ hself).shows_identifier hplural)
      have htext (before : String) :
          before ++ (plural ++ "/" ++ (Segment.param n.resource.idToken).display) =
            before ++ plural ++ "/\x7b" ++ n.token ++ "\x7d" := by
        rw [token_eq, ← String.toList_inj]
        simp [Segment.display]
      rw [htext] at hpath
      obtain ⟨hshows, hpatterns⟩ :=
        h.shows_group hpath (fun p hp => List.mem_append_left _ hp) hplanned
      refine ⟨rfl, hshows, hpatterns, fun owner howner => ?_⟩
      rcases List.mem_append.mp howner with howner | howner
      · split_ifs at howner
        · cases howner
        · exact houter owner howner
      · exact List.mem_append_right _ howner
  · obtain ⟨planned, hplanned, rfl⟩ := List.mem_map.mp hcollection
    have hroot : '{' ∉ (n.resource.plural.getD n.resource.singular).toList := by
      cases hplural : n.resource.plural with
      | none => exact (h.braceless _ hself).1.1
      | some plural => exact (hname plural hplural).1
    have hpath := h.shows_ancestorPath.append_literal hroot
    obtain ⟨hshows, hpatterns⟩ :=
      h.shows_group hpath (fun p hp => List.mem_append_right _ hp) hplanned
    exact ⟨rfl, hshows, hpatterns, houter⟩

/-- The parameters of a route are the identifiers of its owners, and each has the pattern that rules it. -/
theorem Sound.patterns_eq (h : n.Sound) {x : Placement} (hx : x ∈ n.placements) {router : Router}
    (hfront : '{' ∉ router.config.pathPrefix.toList) (hback : '{' ∉ router.config.pathSuffix.toList)
    {before : List Route} {route : Route} (hroute : x.planned.Yields router before route) :
    route.patterns = x.owners.filterMap (n.ruled? router.config.defaultPattern) := by
  obtain ⟨-, hshows, hpatterns, -⟩ := h.shows hx
  obtain ⟨parsed, hparse, -, hoverridden⟩ := hroute.patterns
  have hdecorated : Shows (router.decorate x.planned.path) x.owners :=
    ((Shows.literal hfront).append hshows).append_literal hback
  rw [hoverridden, hpatterns, Route.parse_patterns hparse, hdecorated.fragments]
  unfold Route.overridden
  rw [List.map_filterMap]
  rfl

section Owner

variable {owners : List Resource} {owner : Resource} {defaultPattern pattern : String} {route : Route}

theorem mem_patterns_iff (hpatterns : route.patterns = owners.filterMap (n.ruled? defaultPattern))
    (hnodup : route.parameterNames.Nodup) (howner : owner ∈ owners)
    (hname : Placeholder.IsName owner.idToken.toList) :
    (owner.idToken, pattern) ∈ route.patterns ↔
      pattern = (n.patterns.reverse.lookup owner.idToken).getD defaultPattern := by
  have hparameter : Route.parameter? defaultPattern owner.idToken =
      some (owner.idToken, defaultPattern) := by
    unfold Route.parameter?
    rw [Placeholder.within?_name hname]
    simp [Route.fragment?]
  have hruled : (owner.idToken, (n.patterns.reverse.lookup owner.idToken).getD defaultPattern) ∈
      route.patterns := by
    rw [hpatterns]
    refine List.mem_filterMap.mpr ⟨owner, howner, ?_⟩
    unfold ruled?
    rw [hparameter, Option.map_some]
  constructor
  · intro hmem
    have hlookup := Keyed.lookup_of_mem hnodup hmem
    rw [Keyed.lookup_of_mem hnodup hruled] at hlookup
    exact (Option.some.inj hlookup).symm
  · rintro rfl
    exact hruled

/-- An identifier has the pattern of the innermost resource that has one for its token, or else the default
one. -/
theorem Sound.getD_lookup_eq_iff (h : n.Sound) {token : String} :
    pattern = (n.patterns.reverse.lookup token).getD defaultPattern ↔
      n.Rules token pattern ∨
      (∀ r ∈ n.line, r.idToken = token → r.idPattern = none) ∧ pattern = defaultPattern := by
  rw [← h.lookup_eq_some, ← h.lookup_eq_none]
  cases n.patterns.reverse.lookup token <;> simp [eq_comm]

/-- Where no other pattern is given for the token, that is the pattern of the owner. -/
theorem Sound.getD_lookup_of_unrivalled (h : n.Sound) (howner : owner ∈ n.line)
    (hrivals : ∀ r ∈ n.line, r.idToken = owner.idToken →
      r.idPattern = none ∨ r.idPattern = owner.idPattern) :
    (n.patterns.reverse.lookup owner.idToken).getD defaultPattern =
      owner.idPattern.getD defaultPattern := by
  cases hlookup : n.patterns.reverse.lookup owner.idToken with
  | none => rw [h.lookup_eq_none.mp hlookup owner howner rfl]
  | some pattern =>
    obtain ⟨outer, ruler, inner, hline, htoken, hpattern, -⟩ := h.lookup_eq_some.mp hlookup
    have hruler : ruler ∈ n.line := by
      rw [hline]
      exact List.mem_append_right _ List.mem_cons_self
    rcases hrivals ruler hruler htoken with hnone | hsame
    · rw [hpattern] at hnone
      cases hnone
    · rw [← hsame, hpattern]

end Owner

end Node

/-- The identifiers in the path of a route are its parameters. One whose token is a name has the pattern of
the innermost resource on the line that has the same token and a pattern, and so that of its owner, if no
other one is given for the token. -/
structure Placement.Governs (x : Placement) (defaultPattern : String) (route : Route) : Prop where
  patterns : route.patterns = x.owners.filterMap (x.node.ruled? defaultPattern)
  ruled : ∀ owner ∈ x.owners, Placeholder.IsName owner.idToken.toList → ∀ pattern,
    (owner.idToken, pattern) ∈ route.patterns ↔ x.node.Rules owner.idToken pattern ∨
      (∀ r ∈ x.node.line, r.idToken = owner.idToken → r.idPattern = none) ∧ pattern = defaultPattern
  own : ∀ owner ∈ x.owners, Placeholder.IsName owner.idToken.toList →
    (∀ r ∈ x.node.line, r.idToken = owner.idToken →
      r.idPattern = none ∨ r.idPattern = owner.idPattern) →
    ∀ pattern, (owner.idToken, pattern) ∈ route.patterns ↔
      pattern = owner.idPattern.getD defaultPattern

theorem Node.Sound.governs {n : Node} (h : n.Sound) {x : Placement} (hx : x ∈ n.placements)
    {router : Router} (hfront : '{' ∉ router.config.pathPrefix.toList)
    (hback : '{' ∉ router.config.pathSuffix.toList) {before : List Route} {route : Route}
    (hroute : x.planned.Yields router before route) :
    x.Governs router.config.defaultPattern route := by
  obtain ⟨rfl, -, -, howners⟩ := h.shows hx
  have hpatterns := h.patterns_eq hx hfront hback hroute
  have hnodup := hroute.wellFormed.nodup
  refine ⟨hpatterns, fun owner howner hname pattern => ?_, fun owner howner hname hrivals pattern => ?_⟩
  · rw [Node.mem_patterns_iff hpatterns hnodup howner hname]
    exact h.getD_lookup_eq_iff
  · rw [Node.mem_patterns_iff hpatterns hnodup howner hname,
      h.getD_lookup_of_unrivalled (howners owner howner) hrivals]

/-- Registering a tree of resources without braces in their names gives each route parameters for the
identifiers in its path and for nothing else, and decides the pattern of each by the tokens on the line. -/
theorem register_governs {resource : Resource} {router : Router} {count : Nat} {session : Session}
    (h : resource.register.run router = (.ok count, session))
    (hfront : '{' ∉ router.config.pathPrefix.toList) (hback : '{' ∉ router.config.pathSuffix.toList)
    (hnames : ∀ n ∈ resource.nodes [], n.resource.Braceless) :
    ∃ gained, router.Extended gained session.router ∧
      List.Forall₂ (fun x route => (∃ before, x.planned.Yields router before route) ∧
        x.Governs router.config.defaultPattern route) resource.placements gained := by
  obtain ⟨-, gained, hgained, hextended⟩ := register_layout h
  refine ⟨gained, hextended, List.forall₂_iff_get.mpr ⟨?_, fun i hx hroute => ?_⟩⟩
  · rw [hgained.1, ← map_placements, List.length_map]
  · have hplanned : resource.layout[i]? = some (resource.placements.get ⟨i, hx⟩).planned := by
      rw [← map_placements, List.getElem?_map]
      simp [List.getElem?_eq_getElem hx]
    have hyields := hgained.2 i _ _ hplanned (List.getElem?_eq_getElem hroute)
    obtain ⟨n, hn, hplacement⟩ := List.mem_flatMap.mp (List.get_mem resource.placements ⟨i, hx⟩)
    have hsound := sound_of_mem_nodes hnames hn
    exact ⟨⟨_, hyields⟩, hsound.governs hplacement hfront hback hyields⟩

/-- Comments on posts: each identifier has the pattern of its own resource. -/
theorem register_governs_comments :
    let comments := ((new "comment" (some "comments")).only ["show"]).withIdPattern "[a-f0-9]+"
    let posts := (((new "post" (some "posts")).only ["show"]).withIdPattern "\\d+").nest comments
    let router := Router.ofConfig {}
    ∃ session gained, posts.register.run router = (.ok 2, session) ∧
      router.Extended gained session.router ∧
      List.Forall₂ (fun x route => (∃ before, x.planned.Yields router before route) ∧
        x.Governs "[^/]+" route) posts.placements gained ∧
      session.router.routes.toList.map (·.patterns) =
        [[("post_id", "\\d+")], [("post_id", "\\d+"), ("id", "[a-f0-9]+")]] := by
  intro comments posts router
  have hcount : (posts.register.run router).1.toOption = some 2 := by decide +kernel
  have hrun := eq_of_toOption hcount
  obtain ⟨gained, hextended, hgoverns⟩ :=
    register_governs hrun (by decide) (by decide) (by decide +kernel)
  exact ⟨_, gained, hrun, hextended, hgoverns, by decide +kernel⟩

/-- Posts below the only one of a kind that is called a post as well: the pattern of that one, which has no
identifier in any path, reaches the identifier of the posts, which have no pattern. -/
theorem register_governs_singleton :
    let posts := ((new "post" (some "posts")).only ["show"]).nest ((new "comment" (some "comments")).only [])
    let post := (((new "post" none).only ["show"]).withIdPattern "\\d+").nest posts
    let after := post.register.run (Router.ofConfig {})
    (∀ n ∈ post.nodes [], n.resource.Braceless) ∧ after.1 = .ok 2 ∧ posts.idPattern = none ∧
      after.2.router.routes.toList.map (fun route => (route.name, route.path, route.patterns)) =
        [("post", "post", []), ("post_post", "post/posts/\x7bpost_id\x7d", [("post_id", "\\d+")])] := by
  intro posts post after
  refine ⟨by decide +kernel, by decide +kernel, rfl, by decide +kernel⟩

end Resource
end Routing
