import Routing.Proofs.RoundTrip
import Routing.Proofs.TableCalls

/-! The defaults of the routes along a run: the globals of the moment of registration, and after them the
first value that is written for a key. -/
namespace Routing

/-- The values that a change writes on a route. -/
def RouteChange.written : RouteChange → List (String × String)
  | set key value => [(key, value)]
  | addParameters pairs => pairs
  | specify .. | setMethod _ => []

/-- The values that a call writes on the route at a position. -/
def Call.written (position : Nat) : Call → List (String × String)
  | amend other change => if other = position then change.written else []
  | add .. | addGlobals _ => []

def Call.globals : Call → List (String × String)
  | addGlobals pairs => pairs
  | add .. | amend .. => []

/-- A change writes nothing over a default that is there. -/
theorem RouteChange.defaults_apply {change : RouteChange} {route route' : Route}
    (h : change.apply route = .ok route') (key : String) :
    route'.defaults[key]? = route.defaults[key]?.or (change.written.lookup key) := by
  cases change with
  | specify param pattern =>
    rcases Route.specify_eq_ok.mp h with ⟨-, rfl⟩ | ⟨-, -, regex, -, rfl⟩ <;>
      exact Option.or_none.symm
  | set other value =>
    cases h
    rw [Route.getElem?_set, written, List.lookup_cons, List.lookup_nil]
    by_cases hkey : key = other
    · simp [hkey]
    · simp [hkey, beq_false_of_ne hkey]
  | addParameters pairs =>
    cases h
    exact route.getElem?_addParameters pairs key
  | setMethod bits =>
    obtain ⟨mask, rfl⟩ := Route.setMethod_ok h
    exact Option.or_none.symm

namespace Router

variable {r : Router} {i : Nat} {route : Route}

theorem routeAt?_add (hfound : r.routeAt? i = some route) (uri : String) (mask : MethodMask)
    (asked : Option String) : (r.add uri mask asked).2.routeAt? i = some route := by
  rw [add_eq]
  unfold addNamed
  split_ifs
  · exact hfound
  · split
    · rw [routeAt?_enter, if_neg (routeAt?_lt hfound).ne]
      exact hfound
    · exact hfound

theorem routeAt?_modifyAt (r : Router) (position : Nat) (f : Route → Except Error Route) (i : Nat) :
    (r.modifyAt position f).2.routeAt? i =
      if position = i then (r.routeAt? i).map fun route => ((f route).toOption).getD route
      else r.routeAt? i := by
  unfold modifyAt
  by_cases hposition : position = i
  · subst hposition
    rw [if_pos rfl]
    cases hfound : r.routeAt? position with
    | none => exact hfound
    | some route =>
      rw [Option.map_some, Option.map_some]
      cases hchanged : f route with
      | error e => exact hfound
      | ok route' =>
        change { r with routes := r.routes.setIfInBounds position route' }.routeAt? position = _
        rw [routeAt?_amend, if_pos rfl, hfound]
        rfl
  · rw [if_neg hposition]
    split
    · next route' _ =>
      change { r with routes := r.routes.setIfInBounds position route' }.routeAt? i = _
      rw [routeAt?_amend, if_neg hposition]
    · rfl
    · rfl

/-- Only a change of the route itself touches it. -/
theorem routeAt?_run (hfound : r.routeAt? i = some route) {call : Call}
    (hother : ∀ change, call ≠ .amend i change) : (call.run r).2.routeAt? i = some route := by
  cases call with
  | add uri mask asked => exact routeAt?_add hfound uri mask asked
  | addGlobals pairs => exact hfound
  | amend position change =>
    have hne : position ≠ i := fun he => hother change (he ▸ rfl)
    rw [Call.run, routeAt?_modifyAt, if_neg hne]
    exact hfound

/-- A call gives a route the defaults that it writes for keys without one. -/
theorem defaults_run (hfound : r.routeAt? i = some route) (call : Call) :
    ∃ route', (call.run r).2.routeAt? i = some route' ∧
      ∀ key : String, route'.defaults[key]? =
        route.defaults[key]?.or ((call.written i).lookup key) := by
  by_cases hhere : ∃ change, call = .amend i change
  · obtain ⟨change, rfl⟩ := hhere
    rw [Call.run, routeAt?_modifyAt, if_pos rfl, hfound, Call.written, if_pos rfl]
    refine ⟨_, rfl, fun key => ?_⟩
    dsimp only
    cases hchanged : change.apply route with
    | ok route' => exact RouteChange.defaults_apply hchanged key
    | error e =>
      -- A change that writes values does not fail.
      have hwritten : change.written = [] := by
        cases change with
        | specify | setMethod => rfl
        | set | addParameters => cases hchanged
      rw [hwritten]
      exact Option.or_none.symm
  · have hother : ∀ change, call ≠ .amend i change := fun change he => hhere ⟨change, he⟩
    refine ⟨route, routeAt?_run hfound hother, fun key => ?_⟩
    have hwritten : call.written i = [] := by
      cases call with
      | add | addGlobals => rfl
      | amend position change =>
        exact if_neg fun he => hother change (congrArg (Call.amend · change) he)
    rw [hwritten]
    exact Option.or_none.symm

theorem defaults_afterCalls (hfound : r.routeAt? i = some route) (calls : List Call) :
    ∃ route', (r.afterCalls calls).routeAt? i = some route' ∧
      ∀ key : String, route'.defaults[key]? =
        route.defaults[key]?.or ((calls.flatMap (Call.written i)).lookup key) := by
  induction calls generalizing r route with
  | nil => exact ⟨route, hfound, fun key => Option.or_none.symm⟩
  | cons call calls ih =>
    obtain ⟨next, hnext, hstep⟩ := defaults_run hfound call
    obtain ⟨route', hroute', hrest⟩ := ih hnext
    refine ⟨route', hroute', fun key => ?_⟩
    rw [hrest, hstep, List.flatMap_cons, List.lookup_append, Option.or_assoc]

/-- A position that a call fills is the next one, and the route there has the globals as its defaults. -/
theorem exists_add_of_routeAt? (hfree : r.routeAt? i = none) {call : Call}
    (hfilled : (call.run r).2.routeAt? i = some route) :
    ∃ uri mask asked, call = .add uri mask asked ∧ r.routes.size = i ∧
      (r.add uri mask asked).1 = .ok () ∧ ∀ key : String, route.defaults[key]? = r.globals[key]? := by
  have hempty : r.routeAt? i ≠ some route := by
    rw [hfree]
    exact (Option.some_ne_none route).symm
  cases call with
  | add uri mask asked =>
    refine ⟨uri, mask, asked, rfl, ?_⟩
    rw [Call.run, add_eq] at hfilled
    rw [add_eq]
    split_ifs at hfilled ⊢ with htaken
    · exact absurd hfilled hempty
    · unfold addNamed at hfilled ⊢
      split at hfilled
      · next parsed hparse =>
        rw [routeAt?_enter] at hfilled
        split_ifs at hfilled with hlast
        · cases hfilled
          exact ⟨hlast.symm, rfl, (entered_of_parse (r := { r with nextIndex := _ }) hparse _).defaults⟩
        · exact absurd hfilled hempty
      · exact absurd hfilled hempty
  | addGlobals pairs => exact absurd hfilled hempty
  | amend position change =>
    rw [Call.run, routeAt?_modifyAt, hfree, Option.map_none, ite_self] at hfilled
    cases hfilled

/-- Every route was registered by one of the calls, and has its defaults from the globals of that moment
and from the calls after it. -/
theorem exists_registration (hfree : r.routeAt? i = none) {calls : List Call}
    (hfound : (r.afterCalls calls).routeAt? i = some route) :
    ∃ before uri mask asked later, calls = before ++ .add uri mask asked :: later ∧
      (r.afterCalls before).routes.size = i ∧ ((r.afterCalls before).add uri mask asked).1 = .ok () ∧
      ∀ key : String, route.defaults[key]? =
        (r.afterCalls before).globals[key]?.or ((later.flatMap (Call.written i)).lookup key) := by
  induction calls generalizing r with
  | nil => exact absurd (hfree.symm.trans hfound) (Option.some_ne_none route).symm
  | cons call calls ih =>
    cases hnext : (call.run r).2.routeAt? i with
    | none =>
      obtain ⟨before, uri, mask, asked, later, rfl, hsize, hok, hdefaults⟩ := ih hnext hfound
      exact ⟨call :: before, uri, mask, asked, later, rfl, hsize, hok, hdefaults⟩
    | some entered =>
      obtain ⟨uri, mask, asked, rfl, hsize, hok, hentered⟩ := exists_add_of_routeAt? hfree hnext
      obtain ⟨route', hroute', hdefaults⟩ := defaults_afterCalls hnext calls
      cases hroute'.symm.trans hfound
      refine ⟨[], uri, mask, asked, calls, rfl, hsize, hok, fun key => ?_⟩
      rw [hdefaults, hentered]
      rfl

theorem globals_run (call : Call) (r : Router) :
    (call.run r).2.globals =
      call.globals.foldl (fun values (key, value) => values.insert key value) r.globals := by
  cases call with
  | add uri mask asked =>
    rw [Call.run, add_eq]
    unfold addNamed
    split_ifs
    · rfl
    · split <;> rfl
  | addGlobals pairs => rfl
  | amend position change =>
    rw [Call.run]
    unfold modifyAt
    split <;> rfl

/-- The last value of a global counts. -/
theorem globals_afterCalls (r : Router) (calls : List Call) (key : String) :
    (r.afterCalls calls).globals[key]? =
      ((calls.flatMap Call.globals).reverse.lookup key).or r.globals[key]? := by
  induction calls generalizing r with
  | nil => rfl
  | cons call calls ih =>
    have hstep : r.afterCalls (call :: calls) = (call.run r).2.afterCalls calls := rfl
    rw [hstep, ih, globals_run, Keyed.getElem?_foldl_insert, List.flatMap_cons, List.reverse_append,
      List.lookup_append, Option.or_assoc]

end Router

open Router

variable {r : Router} {i : Nat} {route : Route}

/-- Calls none of which changes a route leave it alone. -/
theorem Router.routeAt?_perform (hfound : r.routeAt? i = some route) {calls : List Call}
    (hother : ∀ call ∈ calls, ∀ change, call ≠ .amend i change) :
    (r.perform calls).2.routeAt? i = some route := by
  induction calls generalizing r with
  | nil => exact hfound
  | cons call calls ih =>
    rw [List.forall_mem_cons] at hother
    have hnext := routeAt?_run hfound hother.1
    rw [perform]
    generalize call.run r = answer at hnext
    obtain ⟨result, r'⟩ := answer
    cases result with
    | ok u => exact ih hnext hother.2
    | error e => exact hnext

theorem Call.eq_of_mem_registration {uri : String} {mask : MethodMask} {name : Option String}
    {patterns defaults : List (String × String)} {position other : Nat} {change : RouteChange}
    (h : .amend other change ∈ registration uri mask name patterns defaults position) :
    other = position := by
  rcases List.mem_append.mp h with h | h
  · rcases List.mem_cons.mp h with h | h
    · cases h
    · obtain ⟨p, -, he⟩ := List.mem_map.mp h
      cases he
      rfl
  · cases List.mem_singleton.mp h
    rfl

/-- The calls for routes that are asked for change no route before them. -/
theorem Router.ne_amend_of_mem_layoutCalls {position : Nat} {layout : List PlannedRoute} {call : Call}
    (hcall : call ∈ r.layoutCalls position layout) (hbefore : i < position) (change : RouteChange) :
    call ≠ .amend i change := by
  rintro rfl
  obtain ⟨⟨planned, other⟩, hplanned, hcall⟩ := List.mem_flatMap.mp hcall
  have hle : position ≤ other := List.le_snd_of_mem_zipIdx hplanned
  have hother : i = other := Call.eq_of_mem_registration hcall
  omega

/-- An operation changes a route only if it is for the route of that name. -/
theorem Operation.routeAt?_run (hr : r.Consistent) (hfound : r.routeAt? i = some route) {op : Operation}
    (hother : ∀ change, op ≠ .amend route.name change) : (op.run r).2.routeAt? i = some route := by
  rw [(op.run_eq r).1]
  refine Router.routeAt?_perform hfound fun call hcall change => ?_
  cases op with
  | add | addDecorated | root | addGlobals =>
    cases List.mem_singleton.mp hcall
    exact nofun
  | register resource => exact Router.ne_amend_of_mem_layoutCalls hcall (routeAt?_lt hfound) change
  | amend name other =>
    obtain ⟨position, hposition, rfl⟩ := Option.map_eq_some_iff.mp (Option.mem_toList.mp hcall)
    rintro ⟨⟩
    obtain ⟨found, hat, rfl⟩ := (hr.names name i).mp hposition
    cases hat.symm.trans hfound
    exact hother _ rfl

/-- In a match every parameter of the route has the text that the path gives it, and every other key the
default of the route. -/
theorem Router.parameters_matchPath {m : Matcher} {path : String} {mask : Option MethodMask} {x : Match}
    (hr : r.Reachable) (hm : Matcher.ofRouter r = .ok m) (hx : m.matchPath path mask = some x) :
    x.route ∈ r.routes.toList ∧ ∃ extracted : List (String × String),
      x = .of x.route extracted ∧ extracted.map Prod.fst = x.route.parameterNames ∧
      ∀ key : String, x.parameters[key]? =
        if key ∈ x.route.parameterNames then extracted.lookup key else x.route.defaults[key]? := by
  obtain ⟨hroute, texts, hlength, hx⟩ := exists_texts hr hm hx
  have hkeys : (x.route.parameterNames.zip texts).map Prod.fst = x.route.parameterNames :=
    Match.map_fst_zip hlength
  have hnodup := (hr.wellFormed x.route hroute).nodup
  rw [← hkeys] at hnodup
  refine ⟨hroute, _, hx, hkeys, fun key => ?_⟩
  have hvalue : x.parameters[key]? =
      ((x.route.parameterNames.zip texts).lookup key).or x.route.defaults[key]? := by
    conv_lhs => rw [hx]
    exact Match.getElem?_foldl_insert _ _ hnodup key
  rw [hvalue]
  split_ifs with hkey
  · rw [← hkeys, ← Keyed.lookup_isSome_iff, Option.isSome_iff_exists] at hkey
    obtain ⟨text, htext⟩ := hkey
    rw [htext, Option.some_or]
  · rw [← hkeys, ← Keyed.lookup_eq_none_iff] at hkey
    rw [hkey, Option.none_or]

/-- Operations, and the making of a router from a table, come down to calls. After any calls, each route has
for a key the global of the moment of its registration, or else the first value that was written on it for
the key; of the globals the last value of a key counts. No call takes a default away or changes it, and no
operation that is not for the route touches it. A match has the defaults under all keys but the parameters,
which have the texts of the path. -/
theorem Router.defaults_writeOnce :
    (∀ (r : Router) (ops : List Operation),
      ops.foldl (fun r op => (op.run r).2) r = r.afterCalls (Operation.calls ops r)) ∧
    (∀ (table : RouteTable) (r : Router) (events : List Event), table.toRouter = (.ok r, events) →
      r = (ofConfig table.config).afterCalls table.calls) ∧
    ∀ (config : Config) (calls : List Call),
      let r := (ofConfig config).afterCalls calls
      (∀ (i : Nat) (route : Route), r.routes[i]? = some route →
        ∃ before uri mask asked later, calls = before ++ .add uri mask asked :: later ∧
          let start := (ofConfig config).afterCalls before
          start.routes.size = i ∧ (start.add uri mask asked).1 = .ok () ∧
          ∀ key : String, route.defaults[key]? =
            start.globals[key]?.or ((later.flatMap (Call.written i)).lookup key)) ∧
      (∀ key : String, r.globals[key]? = (calls.flatMap Call.globals).reverse.lookup key) ∧
      (∀ (i : Nat) (route : Route), r.routes[i]? = some route →
        (∀ more : List Call, ∃ route' : Route, (r.afterCalls more).routes[i]? = some route' ∧
          ∀ key value : String, route.defaults[key]? = some value →
            route'.defaults[key]? = some value) ∧
        ∀ op : Operation, (∀ change, op ≠ .amend route.name change) →
          (op.run r).2.routes[i]? = some route) ∧
      ∀ (m : Matcher) (path : String) (mask : Option MethodMask) (x : Match),
        Matcher.ofRouter r = .ok m → m.matchPath path mask = some x →
        x.route ∈ r.routes.toList ∧ ∃ extracted : List (String × String),
          x = .of x.route extracted ∧ extracted.map Prod.fst = x.route.parameterNames ∧
          ∀ key : String, x.parameters[key]? =
            if key ∈ x.route.parameterNames then extracted.lookup key else x.route.defaults[key]? := by
  refine ⟨fun r ops => (Operation.afterCalls_calls ops r).symm, fun table r events htable => ?_,
    fun config calls => ?_⟩
  · exact (afterCalls_of_perform (table.perform_calls htable)).symm
  · intro r
    have hreachable : r.Reachable := (Reachable.new config).afterCalls calls
    refine ⟨fun i route hfound => exists_registration (r := ofConfig config) rfl hfound, fun key => ?_,
      fun i route hfound => ⟨fun more => ?_, fun op hother => ?_⟩,
      fun m path mask x hm hx => parameters_matchPath hreachable hm hx⟩
    · exact (globals_afterCalls (ofConfig config) calls key).trans Option.or_none
    · obtain ⟨route', hroute', hdefaults⟩ := defaults_afterCalls hfound more
      refine ⟨route', hroute', fun key value hvalue => ?_⟩
      rw [hdefaults, hvalue, Option.some_or]
    · exact Operation.routeAt?_run (consistent_of_reachable hreachable) hfound hother

/-- A route with a global for a key, a first and a second value for another, and a global that comes too
late. -/
theorem Router.defaults_writeOnce_title :
    let calls := [.addGlobals [("lang", "en")], .add "/{lang}/{page}" .get none,
      .amend 0 (.addParameters [("lang", "fr"), ("title", "Home")]), .amend 0 (.set "title" "Away"),
      .addGlobals [("title", "News")]]
    let r := (ofConfig {}).afterCalls calls
    (∃ m x, Matcher.ofRouter r = .ok m ∧ m.matchPath "/de/1" (some .get) = some x ∧
      x.parameters["lang"]? = some "de" ∧ x.parameters["title"]? = some "Home") ∧
    ∀ more : List Call, ∃ route : Route, (r.afterCalls more).routes[0]? = some route ∧
      route.defaults["lang"]? = some "en" ∧ route.defaults["title"]? = some "Home" := by
  intro calls r
  obtain ⟨-, -, hruns⟩ := defaults_writeOnce
  obtain ⟨-, -, hkept, hmatch⟩ := hruns {} calls
  constructor
  · have hfacts : (Matcher.ofRouter r).toOption.any (fun m =>
        (m.matchPath "/de/1" (some .get)).any fun x =>
          decide (x.route.parameterNames = ["lang", "page"] ∧ x.route.defaults["title"]? = some "Home" ∧
            x.parameters["lang"]? = some "de")) = true := by
      decide +kernel
    obtain ⟨m, hm, hfacts⟩ := (Option.any_eq_true _ _).mp hfacts
    obtain ⟨x, hx, hfound⟩ := (Option.any_eq_true _ _).mp hfacts
    obtain ⟨hnames, htitle, hlang⟩ := of_decide_eq_true hfound
    obtain ⟨-, extracted, -, -, hvalues⟩ := hmatch m "/de/1" (some .get) x (ok_of_toOption hm) hx
    refine ⟨m, x, ok_of_toOption hm, hx, hlang, ?_⟩
    rw [hvalues, hnames, if_neg (by decide), htitle]
  · have hfacts : (r.routes[0]?).any (fun route => decide (route.defaults["lang"]? = some "en" ∧
        route.defaults["title"]? = some "Home")) = true := by decide +kernel
    obtain ⟨route, hroute, hfound⟩ := (Option.any_eq_true _ _).mp hfacts
    obtain ⟨hlang, htitle⟩ := of_decide_eq_true hfound
    intro more
    obtain ⟨route', hroute', hdefaults⟩ := (hkept 0 route hroute).1 more
    exact ⟨route', hroute', hdefaults "lang" "en" hlang, hdefaults "title" "Home" htitle⟩

end Routing
