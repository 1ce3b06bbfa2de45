import Routing.Proofs.Registry
import Routing.Router.Generator
import Routing.Router.Matcher

/-! Registrations that fail: what later answers of a router can tell of them. -/
namespace Routing

/-- All that can be asked of a router without changing it. -/
structure View where
  config : Config
  globals : Values
  routes : List Route
  route : String → Except Error Route
  static : String → Except Error Route
  /-- Requests, if a matcher can be compiled. -/
  matching : Except Error (String → Option MethodMask → Option Match)
  generated : Bool → String → List (String × String) → Except Error String

namespace Operation

/-- The name that a registration of one route asks for, `none` if it leaves the name to the router. -/
def givenName? : Operation → Option (Option String)
  | add _ _ name | addDecorated _ _ name => some name
  | root => some (some "root")
  | addGlobals _ | register _ | amend _ _ => none

/-- No route is left to the router to name. -/
def NamesAll : Operation → Prop
  | add _ _ name | addDecorated _ _ name => name.isSome = true
  | register resource => ∀ planned, .route planned ∈ resource.plan {} → planned.name.isSome = true
  | root | addGlobals _ | amend _ _ => True

end Operation

namespace Router

def view (r : Router) : View where
  config := r.config
  globals := r.globals
  routes := r.routes.toList
  route := r.getRoute
  static := r.getStatic
  matching := (Matcher.ofRouter r).map Matcher.matchPath
  generated := r.generate

/-- The result of each operation, and what can be asked after it. -/
def transcript : List Operation → Router → List (Except Error Unit × View)
  | [], _ => []
  | op :: ops, r => ((op.run r).1, (op.run r).2.view) :: transcript ops (op.run r).2

/-- The two routers answer alike, now and after all further operations. -/
def Alike (a b : Router) : Prop :=
  a.view = b.view ∧ ∀ ops, transcript ops a = transcript ops b

/-- The router with another number to try next as an automatic name. -/
def withCounter (counter : Nat) (r : Router) : Router := { r with nextIndex := counter }

def withCounterAfter (counter : Nat) (answer : Except Error Unit × Router) :
    Except Error Unit × Router :=
  (answer.1, answer.2.withCounter counter)

variable {r : Router} {counter : Nat}

theorem ofRouter_withCounter (r : Router) (counter : Nat) :
    Matcher.ofRouter (r.withCounter counter) =
      (Matcher.ofRouter r).map fun m => { m with router := m.router.withCounter counter } := by
  have hroutes : (r.withCounter counter).dynamicRoutes = r.dynamicRoutes := rfl
  have hconfig : (r.withCounter counter).config = r.config := rfl
  unfold Matcher.ofRouter
  simp only [hroutes, hconfig, bind, Except.bind, pure, Except.pure]
  repeat' split
  all_goals rfl

/-- No question asks for the counter. -/
theorem view_withCounter (r : Router) (counter : Nat) : (r.withCounter counter).view = r.view := by
  have hmatching : (Matcher.ofRouter (r.withCounter counter)).map Matcher.matchPath =
      (Matcher.ofRouter r).map Matcher.matchPath := by
    rw [ofRouter_withCounter]
    cases Matcher.ofRouter r <;> rfl
  unfold view
  rw [hmatching]
  rfl

theorem addNamed_withCounter (r : Router) (uri : String) (mask : MethodMask) (name : String) :
    (r.withCounter counter).addNamed uri mask name =
      withCounterAfter counter (r.addNamed uri mask name) := by
  unfold addNamed
  have hconfig : (r.withCounter counter).config = r.config := rfl
  rw [hconfig]
  split <;> rfl

theorem add_withCounter (r : Router) (uri : String) (mask : MethodMask) (name : String) :
    (r.withCounter counter).add uri mask (some name) =
      withCounterAfter counter (r.add uri mask (some name)) := by
  have hnames : (r.withCounter counter).names = r.names := rfl
  simp only [add, hnames]
  split_ifs
  · rfl
  · exact r.addNamed_withCounter uri mask name

theorem modifyAt_withCounter (r : Router) (position : Nat) (f : Route → Except Error Route) :
    (r.withCounter counter).modifyAt position f = withCounterAfter counter (r.modifyAt position f) := by
  have hat : (r.withCounter counter).routeAt? position = r.routeAt? position := rfl
  unfold modifyAt
  rw [hat]
  split <;> rfl

theorem modifyRoute_withCounter (r : Router) (name : String) (f : Route → Except Error Route) :
    (r.withCounter counter).modifyRoute name f = withCounterAfter counter (r.modifyRoute name f) := by
  have hnames : (r.withCounter counter).names = r.names := rfl
  unfold modifyRoute
  rw [hnames]
  split
  · exact r.modifyAt_withCounter _ f
  · rfl

end Router

def Session.withCounter (counter : Nat) (s : Session) : Session :=
  { s with router := s.router.withCounter counter }

namespace Registration

variable {ε α β : Type}

/-- The computation neither reads nor changes the counter of automatic names. -/
def CounterFree (x : Registration ε α) : Prop :=
  ∀ counter s, x (s.withCounter counter) =
    match x s with
    | .ok a s => .ok a (s.withCounter counter)
    | .error e s => .error e (s.withCounter counter)

theorem CounterFree.pure (a : α) : CounterFree (Pure.pure a : Registration ε α) :=
  fun _ _ => rfl

theorem CounterFree.report (event : Event) : CounterFree (report event : Registration ε Unit) :=
  fun _ _ => rfl

theorem CounterFree.bind {x : Registration ε α} {f : α → Registration ε β} (hx : CounterFree x)
    (hf : ∀ a, CounterFree (f a)) : CounterFree (x >>= f) := by
  intro counter s
  have h := hx counter s
  simp only [Bind.bind, EStateM.bind] at h ⊢
  rw [h]
  cases x s with
  | ok a s' => exact hf a counter s'
  | error e s' => rfl

theorem CounterFree.enter {operation : Router → Except Error Unit × Router}
    (h : ∀ counter router, operation (Router.withCounter counter router) =
      Router.withCounterAfter counter (operation router)) : CounterFree (enter operation) := by
  intro counter s
  have hs : operation (s.withCounter counter).router =
      Router.withCounterAfter counter (operation s.router) := h counter s.router
  unfold Registration.enter
  rw [hs]
  obtain ⟨result, router⟩ := operation s.router
  cases result <;> rfl

theorem CounterFree.configureLast (f : Route → Except Error Route) :
    CounterFree (configureLast f) := by
  intro counter s
  have hs : (s.withCounter counter).router.modifyAt (s.router.routes.size - 1) f =
      Router.withCounterAfter counter (s.router.modifyAt (s.router.routes.size - 1) f) :=
    s.router.modifyAt_withCounter _ f
  have hsize : (s.withCounter counter).router.routes.size = s.router.routes.size := rfl
  unfold Registration.configureLast
  rw [hsize, hs]
  obtain ⟨result, router⟩ := s.router.modifyAt (s.router.routes.size - 1) f
  cases result <;> rfl

theorem CounterFree.amendLast (f : Route → Route) :
    CounterFree (amendLast f : Registration ε Unit) := by
  intro counter s
  have hs : (s.withCounter counter).router.modifyAt (s.router.routes.size - 1)
        (fun route => .ok (f route)) =
      Router.withCounterAfter counter
        (s.router.modifyAt (s.router.routes.size - 1) fun route => .ok (f route)) :=
    s.router.modifyAt_withCounter _ _
  have hsize : (s.withCounter counter).router.routes.size = s.router.routes.size := rfl
  unfold Registration.amendLast
  rw [hsize, hs]
  rfl

theorem CounterFree.forM {l : List α} {f : α → Registration ε PUnit}
    (h : ∀ a ∈ l, CounterFree (f a)) : CounterFree (l.forM f) := by
  induction l with
  | nil => exact CounterFree.pure _
  | cons a l ih =>
    rw [List.forall_mem_cons] at h
    exact CounterFree.bind h.1 fun _ => ih h.2

theorem CounterFree.forIn {l : List α} {f : α → β → Registration ε (ForInStep β)}
    (h : ∀ a b, CounterFree (f a b)) (b : β) : CounterFree (ForIn.forIn l b f) := by
  induction l generalizing b with
  | nil => exact CounterFree.pure _
  | cons a l ih =>
    rw [List.forIn_cons]
    refine CounterFree.bind (h a b) fun step => ?_
    cases step with
    | done b => exact CounterFree.pure _
    | yield b => exact ih b

end Registration

open Registration in
theorem PlannedRoute.register_counterFree {planned : PlannedRoute}
    (h : planned.name.isSome = true) : CounterFree planned.register := by
  obtain ⟨name, hname⟩ := Option.isSome_iff_exists.mp h
  unfold PlannedRoute.register
  rw [hname]
  refine .bind (.enter fun counter r => r.add_withCounter _ _ _) fun _ => .bind (.forIn ?_ _) fun _ => ?_
  · exact fun (name, pattern) _ => .bind (.configureLast _) fun _ => .pure _
  · exact .amendLast _

open Registration in
theorem Resource.register_counterFree {resource : Resource}
    (h : ∀ planned, .route planned ∈ resource.plan {} → planned.name.isSome = true) :
    CounterFree resource.register := by
  refine .bind (.forM fun step hstep => ?_) fun _ => .pure _
  cases step with
  | route planned => exact PlannedRoute.register_counterFree (h planned hstep)
  | finished resource routes depth => exact .report _

namespace Router

variable {r : Router} {counter : Nat}

theorem run_withCounter {op : Operation} (h : op.NamesAll) (r : Router) (counter : Nat) :
    op.run (r.withCounter counter) = withCounterAfter counter (op.run r) := by
  cases op with
  | add uri mask name =>
    obtain ⟨name, rfl⟩ := Option.isSome_iff_exists.mp h
    exact r.add_withCounter uri mask name
  | addDecorated uri mask name =>
    obtain ⟨name, rfl⟩ := Option.isSome_iff_exists.mp h
    exact r.add_withCounter _ mask name
  | root => exact r.add_withCounter _ _ _
  | addGlobals pairs => rfl
  | register resource =>
    have hregister := Resource.register_counterFree h counter { router := r }
    have hstart : ({ router := r } : Session).withCounter counter =
        { router := r.withCounter counter } := rfl
    rw [hstart] at hregister
    simp only [Operation.run, Registration.run, hregister]
    cases resource.register { router := r } <;> rfl
  | amend name change => exact r.modifyRoute_withCounter name _

/-- While no route is left to the router to name, the counter makes no difference. -/
theorem transcript_withCounter {ops : List Operation} (h : ∀ op ∈ ops, op.NamesAll) (r : Router)
    (counter : Nat) : transcript ops (r.withCounter counter) = transcript ops r := by
  induction ops generalizing r with
  | nil => rfl
  | cons op ops ih =>
    rw [List.forall_mem_cons] at h
    rw [transcript, transcript, run_withCounter h.1]
    unfold withCounterAfter
    rw [view_withCounter, ih h.2]

theorem addNamed_error {uri : String} {mask : MethodMask} {name : String} {e : Error}
    (h : (r.addNamed uri mask name).1 = .error e) : (r.addNamed uri mask name).2 = r := by
  unfold addNamed at h ⊢
  cases hparse : Route.parse r.config.defaultPattern uri (some mask) with
  | ok route => simp [hparse] at h
  | error e => rfl

/-- A registration that fails leaves everything as it was, apart from the number that it has taken for a
name. -/
theorem add_error {uri : String} {mask : MethodMask} {name : Option String} {e : Error}
    (h : (r.add uri mask name).1 = .error e) :
    (r.add uri mask name).2 =
      if name.isSome = true then r
      else r.withCounter (freeIndex r.names r.names.size r.nextIndex + 1) := by
  cases name with
  | none => exact addNamed_error h
  | some name =>
    change (r.add uri mask (some name)).2 = r
    simp only [add] at h ⊢
    split_ifs at h ⊢
    · rfl
    · exact addNamed_error h

/-- The empty template can always be registered, and its automatic name shows the counter. -/
theorem lastName_add (r : Router) (mask : MethodMask) :
    ((r.add "" mask none).2.routes.toList.getLast?).map Route.name =
      some (toString (freeIndex r.names r.names.size r.nextIndex)) := by
  have hparse : Route.parse r.config.defaultPattern "" (some mask) =
      .ok { template := "", segments := [], method := some mask, patterns := [], regex := none } := rfl
  simp only [add, addNamed, hparse]
  generalize freeIndex r.names r.names.size r.nextIndex = index
  have hlast : ({ r with nextIndex := index + 1 }.enter
      { template := "", segments := [], method := some mask, patterns := [], regex := none }
      (toString index)).routes.toList.getLast? = some (r.entered
        { template := "", segments := [], method := some mask, patterns := [], regex := none }
        (toString index)) := by
    simp [enter, entered]
  rw [hlast, Option.map_some, (r.entered_kept _ _).name]

/-- A number that was taken is not given again. -/
theorem not_alike_withCounter (r : Router) :
    ¬(r.withCounter (freeIndex r.names r.names.size r.nextIndex + 1)).Alike r := by
  intro h
  have hlast : ∀ a : Router, (transcript [.add "" .any none] a).map
      (fun answer => answer.2.routes.getLast?.map Route.name) =
        [some (toString (freeIndex a.names a.names.size a.nextIndex))] :=
    fun a => congrArg (fun name => [name]) (a.lastName_add .any)
  have hsame := (hlast _).symm.trans ((congrArg _ (h.2 [.add "" .any none])).trans (hlast r))
  simp only [List.cons.injEq, Option.some.injEq, and_true] at hsame
  have hindex := toString_nat_injective hsame
  have hle := (freeIndex_spec r.names r.names.size
    (freeIndex r.names r.names.size r.nextIndex + 1)).1
  have hcounter : freeIndex r.names r.names.size (freeIndex r.names r.names.size r.nextIndex + 1) =
    freeIndex r.names r.names.size r.nextIndex := hindex
  omega

/-- The calls for one route are registrations under the name that they ask for. -/
theorem run_of_givenName? {op : Operation} {name : Option String} (h : op.givenName? = some name)
    (r : Router) : ∃ uri mask, op.run r = r.add uri mask name := by
  cases op with
  | add uri mask name' =>
    cases h
    exact ⟨uri, mask, rfl⟩
  | addDecorated uri mask name' =>
    cases h
    exact ⟨r.decorate uri, mask, rfl⟩
  | root =>
    cases h
    exact ⟨r.config.pathPrefix, .get, rfl⟩
  | addGlobals | register | amend => cases h

end Router

/-- A registration that fails goes unnoticed for ever exactly if it asked for a name: then the router is
the one from before. Without a name only the number is gone that the route would have had, which no
answer tells until another route is left to the router to name. -/
theorem failure_unnoticed_iff {r : Router} {op : Operation} {name : Option String}
    (hop : op.givenName? = some name) {e : Error} (hfail : (op.run r).1 = .error e) :
    ((op.run r).2.Alike r ↔ name.isSome = true) ∧
    (name.isSome = true → (op.run r).2 = r) ∧
    (name = none → ∃ counter, r.nextIndex < counter ∧ (op.run r).2 = { r with nextIndex := counter } ∧
      (op.run r).2.view = r.view ∧ ∀ ops, (∀ later ∈ ops, Operation.NamesAll later) →
        Router.transcript ops (op.run r).2 = Router.transcript ops r) := by
  obtain ⟨uri, mask, hrun⟩ := Router.run_of_givenName? hop r
  rw [hrun] at hfail ⊢
  rw [Router.add_error hfail]
  cases name with
  | some name =>
    exact ⟨⟨fun _ => rfl, fun _ => ⟨rfl, fun _ => rfl⟩⟩, fun _ => rfl, fun h => absurd h (by simp)⟩
  | none =>
    have hle := (Router.freeIndex_spec r.names r.names.size r.nextIndex).1
    have hnone : ¬(none : Option String).isSome = true := Bool.false_ne_true
    refine ⟨⟨fun h => absurd h r.not_alike_withCounter, fun h => absurd h hnone⟩,
      fun h => absurd h hnone, fun _ => ⟨_, Nat.lt_succ_of_le hle, rfl, ?_, fun ops hops => ?_⟩⟩
    · exact r.view_withCounter _
    · exact Router.transcript_withCounter hops r _

/-- The name of an earlier route. -/
theorem failure_unnoticed_duplicate :
    let r := Router.afterAll {} [.add "/a" .get (some "a")]
    let op := Operation.add "/b" .get (some "a")
    (op.run r).1 = .error (.duplicateRoute "a") ∧ (op.run r).2 = r := by
  intro r op
  have hfail : (op.run r).1 = .error (.duplicateRoute "a") := by decide +kernel
  exact ⟨hfail, (failure_unnoticed_iff rfl hfail).2.1 rfl⟩

/-- A placeholder that comes twice uses up the first automatic name. -/
theorem failure_noticed :
    let r := Router.ofConfig {}
    let op := Operation.add "/{a}/{a}" .any none
    r.Reachable ∧ (op.run r).1 = .error (.duplicatePlaceholder "a" "/{a}/{a}") ∧
      (r.add "/x" .any none).2.routes.toList.map Route.name = ["0"] ∧
      ((op.run r).2.add "/x" .any none).2.routes.toList.map Route.name = ["1"] ∧
      ¬(op.run r).2.Alike r := by
  intro r op
  have hbefore : (r.add "/x" .any none).2.routes.toList.map Route.name = ["0"] := by decide +kernel
  have hafter : ((op.run r).2.add "/x" .any none).2.routes.toList.map Route.name = ["1"] := by
    decide +kernel
  refine ⟨.new {}, by decide +kernel, hbefore, hafter, fun h => ?_⟩
  have hnames (a : Router) : (Router.transcript [.add "/x" .any none] a).map
      (fun answer => answer.2.routes.map Route.name) =
        [(a.add "/x" .any none).2.routes.toList.map Route.name] := rfl
  have hsame := (hnames _).symm.trans ((congrArg _ (h.2 [.add "/x" .any none])).trans (hnames r))
  rw [hbefore, hafter] at hsame
  exact absurd hsame (by decide)

end Routing
