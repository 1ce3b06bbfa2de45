import Routing.Proofs.MethodLists
import Routing.Proofs.ResourceRegistration
import Routing.Proofs.TableEntries

/-! Making a router from a table: the routes of its entries in their order, and then those of its
resources. -/
namespace Routing

open Registration Router

def RouteEntry.uri (entry : RouteEntry) (config : Config) : String :=
  if entry.decorated then config.pathPrefix ++ entry.path ++ config.pathSuffix else entry.path

def RouteTable.start (table : RouteTable) : Router :=
  (Router.ofConfig table.config).addGlobals table.globals.toList

/-- The route is what the entry of the table writes down, behind the given routes. -/
structure RouteEntry.Yields (entry : RouteEntry) (table : RouteTable) (before : List Route)
    (route : Route) : Prop where
  template : route.template = entry.uri table.config
  method : ∃ mask, route.method = some mask ∧ ∀ v : Verb, mask.contains v = true ↔
    ∃ text ∈ entry.methods, ∃ word ∈ MethodMask.words text.toList, v.IsNamedBy word
  named : table.start.Names before entry.name route.name
  wellFormed : route.WellFormed
  segments : route.segments = (Piece.ofTemplate (entry.uri table.config)).map Route.segment
  patterns : route.patterns =
    (Route.fragments table.config.defaultPattern (entry.uri table.config)).map fun fragment =>
      (fragment.1, entry.patterns[fragment.1]?.getD fragment.2)
  defaults : ∀ key : String, route.defaults[key]? = table.globals[key]?.or entry.defaults[key]?

namespace RouteTable

theorem start_globals (table : RouteTable) (key : String) :
    table.start.globals[key]? = table.globals[key]? := by
  change (table.globals.toList.foldl (fun values p => values.insert p.1 p.2)
    ({} : Values))[key]? = _
  rw [Keyed.getElem?_foldl_insert, Keyed.lookup_reverse (Keyed.nodup_toList table.globals),
    Keyed.lookup_toList, Std.TreeMap.getElem?_emptyc, Option.or_none]

end RouteTable

namespace RouteEntry

theorem mask_ok {entry : RouteEntry} {mask : MethodMask} (h : entry.mask = .ok mask) (v : Verb) :
    mask.contains v = true ↔
      ∃ text ∈ entry.methods, ∃ word ∈ MethodMask.words text.toList, v.IsNamedBy word := by
  unfold RouteEntry.mask inTask at h
  rw [mapError_eq_ok] at h
  rw [MethodMask.contains_parse h, MethodMask.words_intercalate]
  simp only [List.mem_flatMap]
  constructor
  · rintro ⟨word, ⟨text, htext, hword⟩, hnamed⟩
    exact ⟨text, htext, word, hword, hnamed⟩
  · rintro ⟨text, htext, word, hword, hnamed⟩
    exact ⟨word, ⟨text, htext, hword⟩, hnamed⟩

theorem overridden_toList (patterns : List (String × String)) (others : Values) :
    Route.overridden patterns others.toList = patterns.map fun p => (p.1, others[p.1]?.getD p.2) := by
  unfold Route.overridden
  simp only [Keyed.lookup_reverse (Keyed.nodup_toList others), Keyed.lookup_toList]

theorem register_ok {entry : RouteEntry} {s s' : Session} (h : entry.register s = .ok () s')
    {table : RouteTable} {added : List Route} (hs : table.start.Extended added s.router) :
    ∃ route, entry.Yields table added route ∧ table.start.Extended (added ++ [route]) s'.router := by
  unfold RouteEntry.register at h
  dsimp only at h
  cases hmask : entry.mask with
  | error e =>
    rw [hmask] at h
    cases h
  | ok mask =>
    rw [hmask] at h
    obtain ⟨_, t₀, hread, h⟩ := bind_eq_ok.mp h
    cases hread
    obtain ⟨_, t, henter, h⟩ := bind_eq_ok.mp h
    obtain ⟨_, t', hspecify, hamend⟩ := bind_eq_ok.mp h
    have hadd : s.router.add (entry.uri table.config) mask entry.name = (.ok (), t.router) := by
      have hoperation := enter_ok (mapError_ok henter)
      have hconfig : s.router.config = table.config := hs.config
      unfold RouteEntry.uri
      split_ifs at hoperation ⊢ with hdecorated
      · rw [← hconfig]
        exact hoperation
      · exact hoperation
    obtain ⟨route, hroute, hextended⟩ :=
      hs.register hadd (forIn_specify_ok (fun _ _ _ => mapError_ok) hspecify) hamend
    obtain ⟨parsed, hparse, hsegments, hpatterns⟩ := hroute.patterns
    obtain ⟨-, -, -, -, hpieces, -⟩ := Route.parse_ok hparse
    refine ⟨route, ⟨hroute.template, ⟨mask, hroute.method, mask_ok hmask⟩, hroute.named,
      hroute.wellFormed, hsegments.trans hpieces, ?_, fun key => ?_⟩, hextended⟩
    · rw [hpatterns, overridden_toList, Route.parse_patterns hparse]
      rfl
    · rw [hroute.defaults, table.start_globals, Keyed.lookup_toList]

theorem forM_register_ok {entries : List RouteEntry} {s s' : Session}
    (h : (entries.forM register) s = .ok ⟨⟩ s') {table : RouteTable} {added : List Route}
    (hs : table.start.Extended added s.router) :
    ∃ gained, Each (fun entry => entry.Yields table) added entries gained ∧
      table.start.Extended (added ++ gained) s'.router := by
  induction entries generalizing s added with
  | nil =>
    cases h
    refine ⟨[], .nil, ?_⟩
    rw [List.append_nil]
    exact hs
  | cons entry entries ih =>
    obtain ⟨_, t, hfirst, hrest⟩ := bind_eq_ok.mp h
    obtain ⟨route, hroute, ht⟩ := register_ok hfirst hs
    obtain ⟨gained, hgained, hextended⟩ := ih hrest ht
    refine ⟨route :: gained, hgained.cons hroute, ?_⟩
    rw [List.append_cons]
    exact hextended

end RouteEntry

namespace ResourceEntry

theorem register_ok {entry : ResourceEntry} {s s' : Session} (h : entry.register s = .ok () s')
    {r : Router} {added : List Route} (hs : r.Extended added s.router) :
    ∃ resource gained, entry.Describes resource ∧ r.Gains added resource.layout gained ∧
      r.Extended (added ++ gained) s'.router := by
  unfold ResourceEntry.register at h
  cases hresource : entry.toResource with
  | error e =>
    rw [hresource] at h
    cases h
  | ok resource =>
    rw [hresource] at h
    obtain ⟨_, t, hread, h⟩ := bind_eq_ok.mp h
    cases hread
    obtain ⟨_, t, hregister, hdone⟩ := bind_eq_ok.mp h
    cases hdone
    obtain ⟨-, gained, hgained, hextended⟩ := Resource.register_ok (mapError_ok hregister) hs
    exact ⟨resource, gained, describes_of_toResource entry hresource, hgained, hextended⟩

theorem forM_register_ok {entries : List ResourceEntry} {s s' : Session}
    (h : (entries.forM register) s = .ok ⟨⟩ s') {r : Router} {added : List Route}
    (hs : r.Extended added s.router) :
    ∃ resources gained, List.Forall₂ Describes entries resources ∧
      r.Gains added (resources.flatMap Resource.layout) gained ∧
      r.Extended (added ++ gained) s'.router := by
  induction entries generalizing s added with
  | nil =>
    cases h
    refine ⟨[], [], .nil, Each.nil, ?_⟩
    rw [List.append_nil]
    exact hs
  | cons entry entries ih =>
    obtain ⟨_, t, hfirst, hrest⟩ := bind_eq_ok.mp h
    obtain ⟨resource, gained, hresource, hgained, ht⟩ := register_ok hfirst hs
    obtain ⟨resources, gained', hresources, hgained', hextended⟩ := ih hrest ht
    refine ⟨resource :: resources, gained ++ gained', .cons hresource hresources, ?_, ?_⟩
    · rw [List.flatMap_cons]
      exact hgained.append hgained'
    · rw [← List.append_assoc]
      exact hextended

end ResourceEntry

namespace RouteTable

/-- The router holds a route for each entry of the table in their order, and then the routes of its
resources. Each resource is as its entry says, and has as many routes as there are names of actions in
all groups. -/
def Means (table : RouteTable) (router : Router) : Prop :=
  ∃ literal expanded resources,
    router.routes.toList = literal ++ expanded ∧
    Each (fun entry => entry.Yields table) [] table.routes literal ∧
    List.Forall₂ (fun entry resource => entry.Describes resource ∧
      resource.layout.length = entry.routeCount) table.resources resources ∧
    table.start.Gains literal (resources.flatMap Resource.layout) expanded ∧
    expanded.length = (table.resources.map ResourceEntry.routeCount).sum

/-- A table means the routes that it writes down; actions that it writes down are in their group, whatever
is left out. -/
theorem toRouter_means {table : RouteTable} {router : Router} {events : List Event}
    (h : table.toRouter = (.ok router, events)) :
    table.Means router ∧
    ∀ (entry : ResourceEntry) (conventional : Actions) (methods : Values)
      (own : List (String × MethodMask)), ResourceEntry.Reads methods own →
        ∀ action ∈ own, (action.1, Resource.named action.2) ∈ entry.group conventional own := by
  refine ⟨?_, fun entry conventional methods own hown action => entry.mem_group conventional hown⟩
  unfold toRouter at h
  dsimp only at h
  split at h
  · next session hrun =>
    cases h
    obtain ⟨_, t, hroutes, hrest⟩ := bind_eq_ok.mp (Registration.run_eq_ok hrun)
    obtain ⟨_, t', hresources, hrest⟩ := bind_eq_ok.mp hrest
    obtain ⟨_, t'', hget, hreport⟩ := bind_eq_ok.mp hrest
    cases hget
    cases hreport
    obtain ⟨literal, hliteral, ht⟩ := RouteEntry.forM_register_ok hroutes (.refl table.start)
    obtain ⟨resources, expanded, hdescribes, hgains, ht'⟩ := ResourceEntry.forM_register_ok hresources ht
    have hcounts := hdescribes.imp fun entry resource hentry =>
      And.intro hentry (Resource.length_layout hentry)
    have hlength := hgains.1.trans (Resource.length_layouts hdescribes)
    exact ⟨literal, expanded, resources, ht'.routes, hliteral, hcounts, hgains, hlength⟩
  · cases h

/-- A table with a route between a prefix and a suffix, whose pattern is replaced, and with posts that
keep one action of four, have one of their own and hold comments. -/
theorem toRouter_means_posts :
    let comment : ResourceEntry :=
      { name := "comment", plural := some "comments", only := some ["create"] }
    let post : ResourceEntry :=
      { name := "post", plural := some "posts", only := some ["show", "index"], except := ["index"],
        member := Std.TreeMap.ofList [("publish", "post|put")], resources := [comment] }
    let user : RouteEntry :=
      { path := "users/\x7bid:\\d+\x7d", methods := ["get", "Head,delete"], decorated := true
        defaults := Std.TreeMap.ofList [("lang", "fr"), ("page", "1")]
        patterns := Std.TreeMap.ofList [("id", "[a-z]+")] }
    let table : RouteTable :=
      { config := { pathPrefix := "/", pathSuffix := ".html" }
        globals := Std.TreeMap.ofList [("lang", "en")], routes := [user], resources := [post] }
    post.routeCount = 3 ∧ ∃ router events, table.toRouter = (.ok router, events) ∧
      router.routes.toList.map (fun route => (route.name, route.template)) =
        [("0", "/users/\x7bid:\\d+\x7d.html"), ("post", "/posts/\x7bpost_id\x7d.html"),
          ("publish_post", "/posts/\x7bpost_id\x7d/publish.html"),
          ("post_comments", "/posts/\x7bpost_id\x7d/comments.html")] ∧
      table.Means router := by
  intro comment post user table
  have hcount : post.routeCount = 3 := by decide +kernel
  have hroutes : table.toRouter.1.toOption.map (fun router =>
      router.routes.toList.map fun route => (route.name, route.template)) =
        some [("0", "/users/\x7bid:\\d+\x7d.html"), ("post", "/posts/\x7bpost_id\x7d.html"),
          ("publish_post", "/posts/\x7bpost_id\x7d/publish.html"),
          ("post_comments", "/posts/\x7bpost_id\x7d/comments.html")] := by
    decide +kernel
  obtain ⟨router, hrouter, hnames⟩ := Option.map_eq_some_iff.mp hroutes
  have hok := eq_of_toOption hrouter
  exact ⟨hcount, router, _, hok, hnames, (toRouter_means hok).1⟩

end RouteTable
end Routing
