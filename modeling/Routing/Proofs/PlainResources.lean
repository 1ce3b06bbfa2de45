import Routing.Proofs.Calls
import Routing.Proofs.Compilation
import Routing.Proofs.PartialRegistration
import Routing.Proofs.PathSegment

/-! Resources that register whatever they are called: which trees of resources an empty router takes, and
that the plain ones are among them. -/
namespace Routing

/-- A template without placeholders, or with one for an identifier behind some text. -/
inductive AtMostId : String → Prop
  | text {template : String} (h : '{' ∉ template.toList) : AtMostId template
  | id {before after : String} (hbefore : '{' ∉ before.toList) (hne : before ≠ "")
    (hafter : '{' ∉ after.toList) : AtMostId (before ++ "{id}" ++ after)

namespace AtMostId

variable {template : String} {method : Option MethodMask}

/-- Such a template can be read, and the path shows it as it is. -/
theorem exists_parse (h : AtMostId template) (method : Option MethodMask) :
    ∃ r, Route.parse "[^/]+" template method = .ok r := by
  have hfragments : Route.fragments "[^/]+" template = [] ∨
      Route.fragments "[^/]+" template = [("id", "[^/]+")] := by
    unfold Route.fragments
    cases h with
    | text h =>
      rw [Piece.ofTemplate_text h]
      unfold Piece.ofText
      split_ifs <;> exact .inl rfl
    | id hbefore hne hafter =>
      rw [Piece.ofTemplate_id hbefore hne hafter]
      unfold Piece.ofText
      split_ifs <;> exact .inr rfl
  have hsound : Route.Sound [("id", "[^/]+")] :=
    ⟨by simp, List.forall_mem_singleton.mpr (Route.validatePattern_segment "id")⟩
  have hnames : (Route.groupNames [("id", "[^/]+")]).Nodup := by decide +kernel
  rcases hfragments with hfragments | hfragments
  · refine (Route.exists_parse_iff ?_).mpr ⟨?_, ?_⟩ <;> rw [hfragments]
    · exact List.forall_mem_nil _
    · exact Route.sound_nil
    · exact List.nodup_nil
  · refine (Route.exists_parse_iff ?_).mpr ⟨?_, ?_⟩ <;> rw [hfragments]
    · exact List.forall_mem_singleton.mpr Pattern.quiet_segment
    · exact hsound
    · exact hnames

theorem path_of_parse (h : AtMostId template) {r : Route}
    (hparse : Route.parse "[^/]+" template method = .ok r) : r.path = template := by
  cases h with
  | text h => exact (Route.static_of_parse h hparse).2
  | @id before after hbefore hne hafter =>
    have hsegments := (Route.oneSegment_of_parse hbefore hne hafter hparse).segments
    unfold Route.path
    rw [hsegments, ← String.toList_inj]
    split_ifs with hempty
    · simp [Segment.display, hempty]
    · simp [Segment.display]

theorem decorate (h : AtMostId template) {first last : String} (hfirst : '{' ∉ first.toList)
    (hlast : '{' ∉ last.toList) : AtMostId (first ++ template ++ last) := by
  cases h with
  | text h => exact .text (by simp [hfirst, h, hlast])
  | @id before after hbefore hne hafter =>
    have htext : first ++ (before ++ "{id}" ++ after) ++ last =
        (first ++ before) ++ "{id}" ++ (after ++ last) := by
      simp only [String.append_assoc]
    rw [htext]
    refine .id (by simp [hfirst, hbefore]) (fun hnil => hne ?_) (by simp [hafter, hlast])
    rw [← String.toList_inj] at hnil ⊢
    simp at hnil ⊢
    exact hnil.2

end AtMostId

/-- Letters come after the digits. -/
theorem isDigit_eq_false {c : Char} (h : c.isAlpha = true) : c.isDigit = false := by
  have habove : 'A'.val ≤ c.val := by
    rcases Bool.or_eq_true_iff.mp h with hupper | hlower
    · exact (of_decide_eq_true hupper).1
    · have hlower := of_decide_eq_true (Bool.and_eq_true_iff.mp hlower).1
      exact UInt32.le_trans (by decide) hlower
  refine Bool.eq_false_iff.mpr fun hdigit => ?_
  have hbelow : c.val ≤ '9'.val := of_decide_eq_true (Bool.and_eq_true_iff.mp hdigit).2
  exact absurd (UInt32.le_trans habove hbelow) (by decide)

/-- No number is the name. -/
theorem toString_ne {name : String} {c : Char} (hc : c ∈ name.toList) (hdigit : c.isDigit = false)
    (k : Nat) : toString k ≠ name := by
  rintro rfl
  rw [Nat.toString_eq_repr, Nat.toList_repr] at hc
  rw [Nat.isDigit_of_mem_toDigits (by decide) (Nat.le_refl 10) hc] at hdigit
  cases hdigit

namespace Router

theorem Gains.map_eq {r : Router} {added gained : List Route} {asked : List PlannedRoute} {α : Type}
    (h : r.Gains added asked gained) {f : Route → α} {g : PlannedRoute → α}
    (hsame : ∀ planned ∈ asked, ∀ before route, planned.Yields r before route → f route = g planned) :
    gained.map f = asked.map g := by
  refine List.ext_getElem (by simp [h.1]) fun i hgained hasked => ?_
  rw [List.length_map] at hgained hasked
  rw [List.getElem_map, List.getElem_map]
  exact hsame _ (List.getElem_mem hasked) _ _
    (h.2 i _ _ (List.getElem?_eq_getElem hasked) (List.getElem?_eq_getElem hgained))

/-- What routes ask to be called, they are called; so no two ask for the same. -/
theorem Gains.nodup_names {r : Router} {gained : List Route} {asked : List PlannedRoute}
    (h : r.Gains [] asked gained) : (asked.filterMap PlannedRoute.name).Nodup := by
  unfold List.Nodup
  rw [List.pairwise_filterMap, List.pairwise_iff_getElem]
  intro i j hi hj hlt name hname other hother he
  have hi' : i < gained.length := h.1 ▸ hi
  have hj' : j < gained.length := h.1 ▸ hj
  have hnamed {i : Nat} (hi : i < asked.length) (hi' : i < gained.length) :=
    (h.2 i _ _ (List.getElem?_eq_getElem hi) (List.getElem?_eq_getElem hi')).named
  obtain ⟨-, hfirst⟩ := hnamed hi hi'
  obtain ⟨hfree, hsecond⟩ := hnamed hj hj'
  rw [hname] at hfirst
  rw [hother] at hsecond
  dsimp only at hfirst hsecond
  refine hfree (.inr (List.mem_map.mpr ⟨gained[i], ?_, ?_⟩))
  · rw [List.nil_append]
    exact List.mem_take_iff_getElem.mpr ⟨i, by omega, rfl⟩
  · rw [hfirst, hsecond, he]

end Router

namespace Resource

/-- Nothing but the names of its routes can keep the tree of resources out of an empty router. -/
structure Acceptable (resource : Resource) (router : Router) : Prop where
  patterns : ∀ n ∈ resource.nodes [], n.resource.idPattern = none
  templates : ∀ planned ∈ resource.layout, ∃ parsed, Route.parse router.config.defaultPattern
    (router.decorate planned.path) (some planned.method) = .ok parsed
  numbers : ∀ planned ∈ resource.layout, ∀ k : Nat, planned.name ≠ some (toString k)

variable {resource : Resource} {router : Router}

/-- Such a tree fails only at a route that asks for the name of one before it. -/
theorem Acceptable.repeated_of_error (h : resource.Acceptable router) (hr : router.Reachable)
    (hempty : router.routes.toList = []) {e : Error} {session : Session}
    (hrun : resource.register.run router = (.error e, session)) :
    ∃ done planned rest name, resource.layout = done ++ planned :: rest ∧ planned.name = some name ∧
      name ∈ done.filterMap PlannedRoute.name ∧ e = .duplicateRoute name := by
  obtain ⟨done, planned, rest, gained, left, hlayout, -, hgained, hfails⟩ := register_error hrun
  have hplanned : planned ∈ resource.layout := by
    rw [hlayout]
    exact List.mem_append_right _ List.mem_cons_self
  rcases hfails with ⟨-, base, hbase, hadd⟩ | ⟨refused, route, -, -, -, n, hn, hpattern⟩
  · rw [hbase.addDecorated, Router.add_eq] at hadd
    split_ifs at hadd with htaken
    · cases hname : planned.name with
      | none =>
        rw [hname] at htaken
        exact absurd htaken base.freeNumber_fresh
      | some name =>
        rw [hname] at htaken hadd
        refine ⟨done, planned, rest, name, hlayout, hname, ?_, ?_⟩
        · rcases (hbase.names name).mp htaken with hold | hnew
          · rw [(Router.consistent_of_reachable hr).mem_names, hempty] at hold
            cases hold
          · obtain ⟨route, hroute, rfl⟩ := List.mem_map.mp hnew
            obtain ⟨other, hother, before, hyields⟩ := hgained.exists_planned hroute
            obtain ⟨-, hnamed⟩ := hyields.named
            cases hasked : other.name with
            | none =>
              rw [hasked] at hnamed
              obtain ⟨k, hk, -⟩ := hnamed
              exact absurd (hname.trans (congrArg some hk)) (h.numbers planned hplanned k)
            | some asked =>
              rw [hasked] at hnamed
              exact List.mem_filterMap.mpr ⟨other, hother, hasked.trans (congrArg some hnamed.symm)⟩
        · exact (Except.error.inj (congrArg Prod.fst hadd)).symm
    · obtain ⟨parsed, hparsed⟩ := h.templates planned hplanned
      rw [← hbase.config] at hparsed
      rcases Router.addNamed_cases { base with nextIndex := base.counterAfter planned.name }
        (router.decorate planned.path) planned.method (base.nameFor planned.name) with
        ⟨e', herror, -⟩ | ⟨other, -, hok⟩
      · cases herror.symm.trans hparsed
      · cases hadd.symm.trans hok
  · rw [h.patterns n hn] at hpattern
    cases hpattern

/-- Such a tree can be registered in an empty router if and only if no two of its routes ask for the same
name. -/
theorem Acceptable.exists_register_iff (h : resource.Acceptable router) (hr : router.Reachable)
    (hempty : router.routes.toList = []) :
    (∃ session, resource.register.run router = (.ok resource.layout.length, session)) ↔
      (resource.layout.filterMap PlannedRoute.name).Nodup := by
  constructor
  · rintro ⟨session, hrun⟩
    obtain ⟨-, gained, hgained, -⟩ := register_layout hrun
    exact hgained.nodup_names
  · intro hnodup
    cases hrun : resource.register.run router with
    | mk result session =>
      cases result with
      | ok count =>
        rw [(register_layout hrun).1]
        exact ⟨session, rfl⟩
      | error e =>
        obtain ⟨done, planned, rest, name, hlayout, hname, hdone, -⟩ := h.repeated_of_error hr hempty hrun
        rw [hlayout, List.filterMap_append, List.filterMap_cons_some hname] at hnodup
        exact absurd rfl ((List.nodup_append.mp hnodup).2.2 name hdone name List.mem_cons_self)

/-- Its routes have the paths and the verbs that are asked for, if their templates have at most one
placeholder, for an identifier. -/
theorem map_path_method {session : Session} {count : Nat} (hempty : router.routes.toList = [])
    (hdefault : router.config.defaultPattern = "[^/]+")
    (hpaths : ∀ planned ∈ resource.layout, AtMostId (router.decorate planned.path))
    (hrun : resource.register.run router = (.ok count, session)) :
    session.router.routes.toList.map (fun route => (route.path, route.method)) =
      resource.layout.map fun planned => (router.decorate planned.path, some planned.method) := by
  obtain ⟨-, gained, hgained, hextended⟩ := register_layout hrun
  rw [hextended.routes, hempty, List.nil_append]
  refine hgained.map_eq fun planned hplanned before route hyields => ?_
  obtain ⟨parsed, hparse, hsegments, -⟩ := hyields.patterns
  rw [hdefault] at hparse
  have hpath : route.path = parsed.path := by
    unfold Route.path
    rw [hsegments]
  rw [hpath, (hpaths planned hplanned).path_of_parse hparse, hyields.method]

end Resource

/-- What a planned route has of its own: its path, its verbs, and the name that it asks for. -/
def PlannedRoute.key (planned : PlannedRoute) : String × MethodMask × Option String :=
  (planned.path, planned.method, planned.name)

/-- The routes of a resource with the conventional actions. -/
theorem Resource.layout_new (singular plural : String) :
    (new singular (some plural)).layout.map PlannedRoute.key =
      [(plural ++ "/{id}", .get, some singular),
        (plural ++ "/{id}/edit", .get, some ("edit_" ++ singular)),
        (plural ++ "/{id}", .put, none), (plural ++ "/{id}", .delete, none),
        (plural, .get, some plural), (plural ++ "/new", .get, some ("new_" ++ plural)),
        (plural, .post, none)] := by
  have hedit : "edit" ++ ("_" ++ singular) = "edit_" ++ singular := by rw [← String.append_assoc]; rfl
  have hnew : "new" ++ ("_" ++ plural) = "new_" ++ plural := by rw [← String.append_assoc]; rfl
  simp [PlannedRoute.key, layout, nodes, nodesAll, new, Node.memberRoutes, Node.collectionRoutes,
    Node.group, Node.entry, Node.ancestorPath, Node.ancestorName, Node.token, bare, named,
    String.append_assoc, hedit, hnew]

theorem edit_ne_new (singular plural : String) : "edit_" ++ singular ≠ "new_" ++ plural := by
  intro he
  have hchars := congrArg String.toList he
  simp at hchars

structure IsWord (text : String) : Prop where
  ne_empty : text ≠ ""
  alpha : ∀ c ∈ text.toList, c.isAlpha = true

namespace IsWord

variable {text other singular plural : String}

theorem not_mem (h : IsWord text) {c : Char} (hc : c.isAlpha = false) : c ∉ text.toList := by
  intro hmem
  rw [h.alpha c hmem] at hc
  cases hc

theorem toString_ne (h : IsWord text) (k : Nat) : toString k ≠ text := by
  obtain ⟨c, hc⟩ := List.exists_mem_of_ne_nil text.toList fun hnil => h.ne_empty (String.toList_inj.mp hnil)
  exact Routing.toString_ne hc (isDigit_eq_false (h.alpha c hc)) k

theorem ne_of_mem (h : IsWord text) (hother : '_' ∈ other.toList) : text ≠ other := by
  rintro rfl
  exact h.not_mem rfl hother

/-- The names that a resource with the conventional actions asks for are distinct if its own two are. -/
theorem nodup_names_iff (hsingular : IsWord singular) (hplural : IsWord plural) :
    [singular, "edit_" ++ singular, plural, "new_" ++ plural].Nodup ↔ singular ≠ plural := by
  have hedit (text : String) : '_' ∈ ("edit_" ++ text).toList := by simp
  have hnew (text : String) : '_' ∈ ("new_" ++ text).toList := by simp
  simp [hsingular.ne_of_mem (hedit singular), hsingular.ne_of_mem (hnew plural),
    (hplural.ne_of_mem (hedit singular)).symm, hplural.ne_of_mem (hnew plural),
    edit_ne_new singular plural]

end IsWord

namespace Resource

variable {router : Router} {singular plural : String}

theorem atMostId_new (hplural : IsWord plural) {planned : PlannedRoute}
    (hplanned : planned ∈ (new singular (some plural)).layout) : AtMostId planned.path := by
  have hbrace : '{' ∉ plural.toList := hplural.not_mem rfl
  have hid (after : String) (hafter : '{' ∉ after.toList) : AtMostId (plural ++ "/{id}" ++ after) := by
    have htext : plural ++ "/{id}" ++ after = (plural ++ "/") ++ "{id}" ++ after := by
      rw [← String.toList_inj]
      simp
    rw [htext]
    refine .id (by simp [hbrace]) (fun hnil => ?_) hafter
    rw [← String.toList_inj] at hnil
    simp at hnil
  have hkey := List.mem_map_of_mem (f := PlannedRoute.key) hplanned
  rw [layout_new] at hkey
  have hpath : planned.path = plural ++ "/{id}" ∨ planned.path = plural ++ "/{id}/edit" ∨
      planned.path = plural ∨ planned.path = plural ++ "/new" := by
    simp [PlannedRoute.key] at hkey
    tauto
  rcases hpath with hpath | hpath | hpath | hpath <;> rw [hpath]
  · rw [← @String.append_empty (plural ++ "/{id}")]
    exact hid "" (by simp)
  · have hedit : plural ++ "/{id}/edit" = plural ++ "/{id}" ++ "/edit" := by
      rw [String.append_assoc]
      rfl
    rw [hedit]
    exact hid "/edit" (by decide)
  · exact .text hbrace
  · exact .text (by simp [hbrace])

theorem name_new {planned : PlannedRoute} (hplanned : planned ∈ (new singular (some plural)).layout)
    {name : String} (hname : planned.name = some name) :
    name ∈ [singular, "edit_" ++ singular, plural, "new_" ++ plural] := by
  have hkey := List.mem_map_of_mem (f := PlannedRoute.key) hplanned
  rw [layout_new] at hkey
  simp [PlannedRoute.key, hname] at hkey ⊢
  tauto

theorem acceptable_new (hdefault : router.config.defaultPattern = "[^/]+")
    (hfirst : '{' ∉ router.config.pathPrefix.toList) (hlast : '{' ∉ router.config.pathSuffix.toList)
    (hsingular : IsWord singular) (hplural : IsWord plural) :
    (new singular (some plural)).Acceptable router where
  patterns n hn := by
    simp only [new, nodes, nodesAll, List.mem_singleton] at hn
    rw [hn]
  templates planned hplanned := by
    rw [hdefault]
    exact ((atMostId_new hplural hplanned).decorate hfirst hlast).exists_parse _
  numbers planned hplanned k hname := by
    have hedit : toString k ≠ "edit_" ++ singular := Routing.toString_ne (c := 'e') (by simp) rfl k
    have hnew : toString k ≠ "new_" ++ plural := Routing.toString_ne (c := 'n') (by simp) rfl k
    have hall : ∀ name ∈ [singular, "edit_" ++ singular, plural, "new_" ++ plural], toString k ≠ name := by
      rw [List.forall_mem_cons, List.forall_mem_cons, List.forall_mem_cons, List.forall_mem_singleton]
      exact ⟨hsingular.toString_ne k, hedit, hplural.toString_ne k, hnew⟩
    exact hall _ (name_new hplanned hname) rfl

/-- No two routes of a resource with the conventional actions are for the same path and verb. -/
theorem nodup_map_path_method (router : Router) (singular plural : String) :
    ((new singular (some plural)).layout.map fun planned =>
      (router.decorate planned.path, some planned.method)).Nodup := by
  have hlayout := congrArg (List.map fun key => (router.decorate key.1, some key.2.1))
    (layout_new singular plural)
  rw [List.map_map] at hlayout
  have htails : (new singular (some plural)).layout.map (fun planned =>
      (router.decorate planned.path, some planned.method)) =
      [("/{id}", MethodMask.get), ("/{id}/edit", .get), ("/{id}", .put),
        ("/{id}", .delete), ("", .get), ("/new", .get), ("", .post)].map fun tail =>
          (router.decorate (plural ++ tail.1), some tail.2) := by
    refine hlayout.trans ?_
    simp
  rw [htails]
  refine List.Nodup.map (fun a b he => ?_) (by decide)
  obtain ⟨hpath, hmethod⟩ := Prod.mk.inj he
  unfold Router.decorate at hpath
  rw [String.append_left_inj, String.append_right_inj, String.append_right_inj] at hpath
  exact Prod.ext hpath (Option.some.inj hmethod)

/-- If the two words are one, it is the name that comes twice. -/
theorem eq_of_repeated {done rest : List String} {name : String}
    (h : [singular, "edit_" ++ singular, singular, "new_" ++ singular] = done ++ name :: rest)
    (hdone : name ∈ done) : name = singular := by
  have htwice : 2 ≤ List.count name [singular, "edit_" ++ singular, singular, "new_" ++ singular] := by
    rw [h, List.count_append, List.count_cons_self]
    have hone := List.one_le_count_iff.mpr hdone
    omega
  by_contra hne
  have hothers : ["edit_" ++ singular, "new_" ++ singular].Nodup := by
    rw [List.nodup_cons, List.mem_singleton]
    exact ⟨edit_ne_new singular singular, List.nodup_singleton _⟩
  have honce := List.nodup_iff_count_le_one.mp hothers name
  simp only [List.count_cons, List.count_nil, beq_iff_eq, if_neg (Ne.symm hne)] at htwice honce
  omega

/-- A resource with the conventional actions can be registered in an empty router, whatever two different
words it is called by. Its seven routes have distinct names, and no two of them are for the same path and
verb. Called by one word twice, it is refused, since two of its routes ask for that name. -/
theorem register_plain (hr : router.Reachable) (hempty : router.routes.toList = [])
    (hdefault : router.config.defaultPattern = "[^/]+") (hfirst : '{' ∉ router.config.pathPrefix.toList)
    (hlast : '{' ∉ router.config.pathSuffix.toList) (hsingular : IsWord singular)
    (hplural : IsWord plural) :
    (singular ≠ plural → ∃ session,
      (new singular (some plural)).register.run router = (.ok 7, session) ∧
      session.router.routes.size = 7 ∧ (session.router.routes.toList.map Route.name).Nodup ∧
      (session.router.routes.toList.map fun route => (route.path, route.method)).Nodup) ∧
    (singular = plural → ∃ session,
      (new singular (some plural)).register.run router = (.error (.duplicateRoute singular), session)) := by
  have hacceptable : (new singular (some plural)).Acceptable router :=
    acceptable_new hdefault hfirst hlast hsingular hplural
  have hlayout := layout_new singular plural
  have hlength : (new singular (some plural)).layout.length = 7 := by
    rw [← List.length_map (f := PlannedRoute.key), hlayout]
    rfl
  have hnames : (new singular (some plural)).layout.filterMap PlannedRoute.name =
      [singular, "edit_" ++ singular, plural, "new_" ++ plural] := by
    have hsame := congrArg (List.filterMap fun key => key.2.2) hlayout
    rwa [List.filterMap_map] at hsame
  have hiff := hacceptable.exists_register_iff hr hempty
  rw [hlength, hnames, hsingular.nodup_names_iff hplural] at hiff
  constructor
  · intro hne
    obtain ⟨session, hrun⟩ := hiff.mpr hne
    have hreachable : session.router.Reachable := by
      have hstep := hr.operate (.register (new singular (some plural)))
      simp only [Operation.run, hrun] at hstep
      exact hstep
    have hpairs := map_path_method hempty hdefault
      (fun planned hplanned => (atMostId_new hplural hplanned).decorate hfirst hlast) hrun
    refine ⟨session, hrun, ?_, (Router.consistent_of_reachable hreachable).names_nodup, ?_⟩
    · have hsize := congrArg List.length hpairs
      rwa [List.length_map, List.length_map, hlength, Array.length_toList] at hsize
    · rw [hpairs]
      exact nodup_map_path_method router singular plural
  · rintro rfl
    cases hrun : (new singular (some singular)).register.run router with
    | mk result session =>
      cases result with
      | ok count =>
        have hcount := (register_layout hrun).1
        rw [hlength] at hcount
        exact absurd rfl (hiff.mp ⟨session, hcount ▸ hrun⟩)
      | error e =>
        obtain ⟨done, planned, rest, name, hsplit, hname, hdone, rfl⟩ :=
          hacceptable.repeated_of_error hr hempty hrun
        rw [hsplit, List.filterMap_append, List.filterMap_cons_some hname] at hnames
        rw [eq_of_repeated hnames.symm hdone]
        exact ⟨session, rfl⟩

/-- Posts behind a prefix and before a suffix. -/
theorem register_plain_posts :
    let router := Router.ofConfig { pathPrefix := "/api/", pathSuffix := ".json", chunkSize := 3 }
    (router.Reachable ∧ router.routes.toList = [] ∧ router.config.defaultPattern = "[^/]+" ∧
      '{' ∉ router.config.pathPrefix.toList ∧ '{' ∉ router.config.pathSuffix.toList ∧
      IsWord "post" ∧ IsWord "posts") ∧
    ∃ session, (new "post" (some "posts")).register.run router = (.ok 7, session) ∧
      session.router.routes.size = 7 ∧ (session.router.routes.toList.map Route.name).Nodup ∧
      (session.router.routes.toList.map fun route => (route.path, route.method)).Nodup := by
  intro router
  have hreachable : router.Reachable := .new _
  have hfirst : '{' ∉ router.config.pathPrefix.toList := by decide +kernel
  have hlast : '{' ∉ router.config.pathSuffix.toList := by decide +kernel
  have hpost : IsWord "post" := ⟨by decide, List.all_eq_true.mp (by decide +kernel)⟩
  have hposts : IsWord "posts" := ⟨by decide, List.all_eq_true.mp (by decide +kernel)⟩
  exact ⟨⟨hreachable, rfl, rfl, hfirst, hlast, hpost, hposts⟩,
    (register_plain hreachable rfl rfl hfirst hlast hpost hposts).1 (by decide)⟩

/-- The route of all the sheep asks for the name of the route of one. -/
theorem register_plain_sheep :
    IsWord "sheep" ∧ ((new "sheep" (some "sheep")).register.run (Router.ofConfig {})).1 =
      .error (.duplicateRoute "sheep") := by
  exact ⟨⟨by decide, List.all_eq_true.mp (by decide +kernel)⟩, by decide +kernel⟩

end Resource
end Routing
