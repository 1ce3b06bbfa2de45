import Routing.Proofs.Calls
import Routing.Proofs.TableRegistration

/-! The calls that the making of a router from a table comes down to. -/
namespace Routing

open Registration Router

def RouteEntry.calls (entry : RouteEntry) (config : Config) (position : Nat) : List Call :=
  match entry.mask with
  | .ok mask => Call.registration (entry.uri config) mask entry.name entry.patterns.toList
      entry.defaults.toList position
  | .error _ => []

def ResourceEntry.layout (entry : ResourceEntry) : List PlannedRoute :=
  match entry.toResource with
  | .ok resource => resource.layout
  | .error _ => []

def RouteTable.calls (table : RouteTable) : List Call :=
  .addGlobals table.globals.toList ::
    (table.routes.zipIdx.flatMap fun (entry, position) => entry.calls table.config position) ++
    table.start.layoutCalls table.routes.length (table.resources.flatMap ResourceEntry.layout)

theorem RouteEntry.register_performs {entry : RouteEntry} {mask : MethodMask} (hmask : entry.mask = .ok mask)
    {config : Config} {s : Session} (h : s.router.config = config) :
    entry.register.Performs s (entry.calls config s.router.routes.size) := by
  have hcalls : entry.calls config s.router.routes.size = Call.registration (entry.uri config) mask
      entry.name entry.patterns.toList entry.defaults.toList s.router.routes.size := by
    unfold RouteEntry.calls
    rw [hmask]
  let operation (r : Router) := if entry.decorated then r.addDecorated entry.path mask entry.name
    else r.add entry.path mask entry.name
  have hoperation : operation s.router = (Call.add (entry.uri config) mask entry.name).run s.router := by
    unfold operation RouteEntry.uri
    rw [← h]
    split_ifs <;> rfl
  have hfirst : (Registration.enter operation).Performs s [.add (entry.uri config) mask entry.name] :=
    .enter hoperation
  unfold RouteEntry.register
  rw [hcalls, hmask]
  exact (hfirst.mapError _).registration
    (fun p t => .mapError _ (.configureLast (.specify p.1 p.2) t)) entry.patterns.toList
    entry.defaults.toList

theorem RouteEntry.mask_of_register {entry : RouteEntry} {s s' : Session}
    (h : entry.register s = .ok () s') : ∃ mask, entry.mask = .ok mask := by
  cases hmask : entry.mask with
  | ok mask => exact ⟨mask, rfl⟩
  | error e =>
    unfold RouteEntry.register at h
    rw [hmask] at h
    cases h

theorem RouteEntry.forM_register_perform {entries : List RouteEntry} {s s' : Session}
    (h : (entries.forM register) s = .ok ⟨⟩ s') {config : Config} (hconfig : s.router.config = config) :
    s.router.perform ((entries.zipIdx s.router.routes.size).flatMap fun (entry, position) =>
      entry.calls config position) = (.ok (), s'.router) := by
  induction entries generalizing s with
  | nil =>
    cases h
    rfl
  | cons entry entries ih =>
    obtain ⟨_, t, hfirst, hrest⟩ := bind_eq_ok.mp h
    obtain ⟨mask, hmask⟩ := mask_of_register hfirst
    have hcalls := (register_performs hmask hconfig).of_ok hfirst
    have hsize : t.router.routes.size = s.router.routes.size + 1 := by
      rw [size_of_perform hcalls, RouteEntry.calls, hmask, countP_registration]
    rw [List.zipIdx_cons, List.flatMap_cons, perform_append, hcalls, ← hsize]
    exact ih hrest ((config_of_perform hcalls).trans hconfig)

theorem ResourceEntry.register_perform {entry : ResourceEntry} {s s' : Session}
    (h : entry.register s = .ok () s') :
    s.router.perform (s.router.layoutCalls s.router.routes.size entry.layout) = (.ok (), s'.router) := by
  unfold ResourceEntry.register at h
  cases hresource : entry.toResource with
  | error e =>
    rw [hresource] at h
    cases h
  | ok resource =>
    rw [hresource] at h
    obtain ⟨_, t, hread, h⟩ := bind_eq_ok.mp h
    cases hread
    obtain ⟨_, t, hregister, hdone⟩ := bind_eq_ok.mp h
    cases hdone
    unfold ResourceEntry.layout
    rw [hresource]
    exact (resource.register_performs s).of_ok (mapError_ok hregister)

theorem ResourceEntry.forM_register_perform {entries : List ResourceEntry} {s s' : Session}
    (h : (entries.forM register) s = .ok ⟨⟩ s') {r : Router} (hconfig : s.router.config = r.config) :
    s.router.perform (r.layoutCalls s.router.routes.size (entries.flatMap layout)) =
      (.ok (), s'.router) := by
  induction entries generalizing s with
  | nil =>
    cases h
    rfl
  | cons entry entries ih =>
    obtain ⟨_, t, hfirst, hrest⟩ := bind_eq_ok.mp h
    have hcalls := register_perform hfirst
    have hlayout (position : Nat) (layout : List PlannedRoute) :
        s.router.layoutCalls position layout = r.layoutCalls position layout := by
      unfold layoutCalls
      simp only [decorate_of_config hconfig]
    rw [hlayout] at hcalls
    have hsize : t.router.routes.size = s.router.routes.size + entry.layout.length := by
      rw [size_of_perform hcalls, countP_layoutCalls]
    rw [List.flatMap_cons, layoutCalls_append, perform_append, hcalls, ← hsize]
    exact ih hrest ((config_of_perform hcalls).trans hconfig)

/-- A table that gives a router is its calls on a new one, none of which fails. -/
theorem RouteTable.perform_calls {table : RouteTable} {router : Router} {events : List Event}
    (h : table.toRouter = (.ok router, events)) :
    (Router.ofConfig table.config).perform table.calls = (.ok (), router) := by
  unfold toRouter at h
  dsimp only at h
  split at h
  · next session hrun =>
    cases h
    obtain ⟨_, t, hroutes, hrest⟩ := bind_eq_ok.mp (Registration.run_eq_ok hrun)
    obtain ⟨_, t', hresources, hrest⟩ := bind_eq_ok.mp hrest
    obtain ⟨_, t'', hget, hreport⟩ := bind_eq_ok.mp hrest
    cases hget
    cases hreport
    obtain ⟨literal, hliteral, hextended⟩ := RouteEntry.forM_register_ok hroutes (.refl table.start)
    have hsize : t.router.routes.size = table.routes.length := by
      rw [← Array.length_toList, hextended.routes]
      exact hliteral.1
    have hentries : table.start.perform (table.routes.zipIdx.flatMap fun (entry, position) =>
        entry.calls table.config position) = (.ok (), t.router) :=
      RouteEntry.forM_register_perform hroutes rfl
    have hlayout := ResourceEntry.forM_register_perform hresources hextended.config
    rw [hsize] at hlayout
    rw [RouteTable.calls, List.cons_append, perform]
    change table.start.perform _ = _
    rw [perform_append, hentries]
    exact hlayout
  · cases h

/-- A router as it comes into being: a new one, or one that is made from a table. -/
inductive Router.Made : Router → Prop
  | new (config : Config) : Made (ofConfig config)
  | table {table : RouteTable} {r : Router} {events : List Event} (h : table.toRouter = (.ok r, events)) :
    Made r

/-- A router comes into being by calls none of which fails. -/
theorem Router.Made.exists_calls {r : Router} (h : r.Made) :
    ∃ config calls, (ofConfig config).perform calls = (.ok (), r) := by
  cases h with
  | new config => exact ⟨config, [], rfl⟩
  | table h => exact ⟨_, _, RouteTable.perform_calls h⟩

theorem Router.afterCalls_of_perform {r r' : Router} {calls : List Call}
    (h : r.perform calls = (.ok (), r')) : r.afterCalls calls = r' := by
  rw [← made_of_ok (congrArg Prod.fst h), afterCalls_made, h]

/-- If calls up to the first that fails are all calls, then each of them succeeds at its place. -/
theorem Router.run_of_perform {r : Router} {before after : List Call} {call : Call}
    (h : (r.perform (before ++ call :: after)).1 = .ok ()) :
    (call.run (r.afterCalls before)).1 = .ok () := by
  rw [perform_append] at h
  split at h
  · next hbefore =>
    rw [afterCalls_of_perform hbefore]
    rw [perform] at h
    split at h
    · next hrun => rw [hrun]
    · cases h
  · cases h

theorem Router.Made.reachable {r : Router} (h : r.Made) : r.Reachable := by
  obtain ⟨config, calls, hcalls⟩ := h.exists_calls
  rw [← afterCalls_of_perform hcalls]
  exact (Reachable.new config).afterCalls calls

end Routing
