import Mathlib.Order.Bounds.Basic
import Routing.Proofs.TableCalls

/-! The names that the router gives to routes by itself: the loop that looks for a free number, the numbers
that it hands out along a run, and when they leave none out. -/
namespace Routing

/-- The loop that tries numbers one after the other and ends at the first that is no name, with its start,
the number of its steps, and its end. -/
inductive Naming (names : Std.TreeMap String Nat) : Nat → Nat → Nat → Prop
  | free {index : Nat} (h : toString index ∉ names) : Naming names index 1 index
  | taken {start steps index : Nat} (h : toString start ∈ names)
    (next : Naming names (start + 1) steps index) : Naming names start (steps + 1) index

namespace Call

/-- The call leaves the name of a route to the router. -/
def Nameless : Call → Prop
  | add _ _ asked => asked = none
  | addGlobals _ | amend .. => False

/-- The number that a call takes from the router for a name. -/
def number? (r : Router) : Call → Option Nat
  | add _ _ none => some r.freeNumber
  | add _ _ (some _) | addGlobals _ | amend .. => none

end Call

namespace Operation

/-- The operation is one for a route without a name, or for a resource. -/
def MayName : Operation → Prop
  | add _ _ asked | addDecorated _ _ asked => asked = none
  | register _ => True
  | root | addGlobals _ | amend .. => False

end Operation

namespace Router

def numbers : List Call → Router → List Nat
  | [], _ => []
  | call :: calls, r => (call.number? r).toList ++ numbers calls (call.run r).2

/-- Every number that was tried is a name. -/
def Gapless (r : Router) : Prop := ∀ k < r.nextIndex, toString k ∈ r.names

theorem naming_freeIndex {names : Std.TreeMap String Nat} {fuel start : Nat}
    (hfresh : toString (freeIndex names fuel start) ∉ names) :
    ∃ steps ≤ fuel + 1, Naming names start steps (freeIndex names fuel start) := by
  induction fuel generalizing start with
  | zero => exact ⟨1, Nat.le_refl _, .free hfresh⟩
  | succ fuel ih =>
    simp only [freeIndex, Std.TreeMap.contains_iff_mem] at hfresh ⊢
    split_ifs at hfresh ⊢ with htaken
    · obtain ⟨steps, hsteps, hnaming⟩ := ih hfresh
      exact ⟨steps + 1, Nat.succ_le_succ hsteps, .taken htaken hnaming⟩
    · exact ⟨1, by omega, .free htaken⟩

theorem Reachable.size_names {r : Router} (h : r.Reachable) : r.names.size = r.routes.size := by
  refine h.invariant (P := fun r => r.names.size = r.routes.size) (fun config => rfl) fun r r' hmove hr => ?_
  cases hmove with
  | settings => exact hr
  | @enter uri name mask route parsed fresh =>
    change (r.names.insert name r.routes.size).size = (r.routes.push _).size
    rw [Std.TreeMap.size_insert, if_neg (mt Std.TreeMap.contains_iff_mem.mp fresh), Array.size_push, hr]
  | amend => exact hr.trans Array.size_setIfInBounds.symm

theorem nextIndex_le_freeNumber (r : Router) : r.nextIndex ≤ r.freeNumber :=
  (freeIndex_spec r.names r.names.size r.nextIndex).1

theorem mem_names_of_lt_freeNumber {r : Router} {k : Nat} (hle : r.nextIndex ≤ k)
    (hlt : k < r.freeNumber) : toString k ∈ r.names :=
  (freeIndex_spec r.names r.names.size r.nextIndex).2.1 k hle hlt

/-- If every number that was tried is a name, then the free number is the least one that is none. -/
theorem Gapless.isLeast {r : Router} (h : r.Gapless) :
    IsLeast {k | toString k ∉ r.names} r.freeNumber := by
  refine ⟨r.freeNumber_fresh, fun k hk => ?_⟩
  by_contra hlt
  rcases Nat.lt_or_ge k r.nextIndex with hold | hnew
  · exact hk (h k hold)
  · exact hk (mem_names_of_lt_freeNumber hnew (Nat.lt_of_not_le hlt))

end Router

/-- The name of a route is not among what can be wrong with its template. -/
theorem Route.parse_ne_duplicateRoute (defaultPattern template : String) (method : Option MethodMask)
    (name : String) : Route.parse defaultPattern template method ≠ .error (.duplicateRoute name) := by
  have hvalidate (param pattern : String) :
      Route.validatePattern param pattern ≠ .error (.duplicateRoute name) := by
    unfold Route.validatePattern
    split
    · exact nofun
    · split_ifs <;> exact nofun
  intro h
  rcases Route.parse_eq_error.mp h with ⟨good, bad, rest, -, -, hcheck⟩ | ⟨-, hregex⟩
  · unfold Route.check at hcheck
    split_ifs at hcheck
    · cases hcheck
    · exact hvalidate _ _ hcheck
  · unfold Route.compileRegex at hregex
    split_ifs at hregex
    dsimp only at hregex
    split at hregex <;> cases hregex

namespace Router

/-- A route without a name is entered under the free number, unless its template is at fault; the number is
used up in any case. -/
theorem add_none (r : Router) (uri : String) (mask : MethodMask) :
    (∃ e, (∀ name, e ≠ .duplicateRoute name) ∧
      r.add uri mask none = (.error e, { r with nextIndex := r.freeNumber + 1 })) ∨
    ∃ parsed, r.add uri mask none =
      (.ok (), { r with nextIndex := r.freeNumber + 1 }.enter parsed (toString r.freeNumber)) := by
  have hadd : r.add uri mask none =
      { r with nextIndex := r.freeNumber + 1 }.addNamed uri mask (toString r.freeNumber) := rfl
  rw [hadd]
  rcases addNamed_cases { r with nextIndex := r.freeNumber + 1 } uri mask (toString r.freeNumber) with
    ⟨e, hparse, hnamed⟩ | ⟨parsed, -, hnamed⟩
  · refine .inl ⟨e, fun name he => ?_, hnamed⟩
    rw [he] at hparse
    exact Route.parse_ne_duplicateRoute _ _ _ name hparse
  · exact .inr ⟨parsed, hnamed⟩

theorem mem_names_enter (r : Router) (parsed : Route) (name other : String) :
    other ∈ (r.enter parsed name).names ↔ other = name ∨ other ∈ r.names := by
  change other ∈ r.names.insert name r.routes.size ↔ _
  rw [Std.TreeMap.mem_insert, Std.LawfulEqCmp.compare_eq_iff_eq, eq_comm]

/-- A call keeps the names, and it moves the counter only to take a number. -/
theorem run_names (call : Call) (r : Router) :
    (∀ name ∈ r.names, name ∈ (call.run r).2.names) ∧
      (call.run r).2.nextIndex = match call.number? r with
        | some n => n + 1
        | none => r.nextIndex := by
  cases call with
  | add uri mask asked =>
    have hcounter : r.counterAfter asked = match (Call.add uri mask asked).number? r with
        | some n => n + 1
        | none => r.nextIndex := by
      cases asked <;> rfl
    rw [Call.run, add_eq, ← hcounter]
    split_ifs with htaken
    · refine ⟨fun name hname => hname, ?_⟩
      cases asked with
      | some name => rfl
      | none => exact absurd htaken r.freeNumber_fresh
    · rcases addNamed_cases { r with nextIndex := r.counterAfter asked } uri mask (r.nameFor asked) with
        ⟨e, -, hnamed⟩ | ⟨parsed, -, hnamed⟩ <;> rw [hnamed]
      · exact ⟨fun name hname => hname, rfl⟩
      · exact ⟨fun name hname => (mem_names_enter _ _ _ _).mpr (.inr hname), rfl⟩
  | addGlobals pairs => exact ⟨fun name hname => hname, rfl⟩
  | amend position change =>
    rw [Call.run]
    unfold modifyAt
    split <;> exact ⟨fun name hname => hname, rfl⟩

/-- Numbers are taken in increasing order. -/
theorem pairwise_numbers (calls : List Call) (r : Router) :
    (∀ k ∈ numbers calls r, r.nextIndex ≤ k) ∧ (numbers calls r).Pairwise (· < ·) := by
  induction calls generalizing r with
  | nil => exact ⟨by simp [numbers], .nil⟩
  | cons call calls ih =>
    obtain ⟨hbound, hpairwise⟩ := ih (call.run r).2
    have hcounter := (run_names call r).2
    rw [numbers]
    cases hnumber : call.number? r with
    | none =>
      rw [hnumber] at hcounter
      rw [hcounter] at hbound
      exact ⟨hbound, hpairwise⟩
    | some n =>
      have hn : n = r.freeNumber := by
        cases call with
        | add uri mask asked =>
          cases asked with
          | none => exact (Option.some.inj hnumber).symm
          | some name => cases hnumber
        | addGlobals | amend => cases hnumber
      have hle : r.nextIndex ≤ n := hn ▸ r.nextIndex_le_freeNumber
      rw [hnumber] at hcounter
      have habove : ∀ k ∈ numbers calls (call.run r).2, n < k := by
        rw [hcounter] at hbound
        exact fun k hk => Nat.lt_of_succ_le (hbound k hk)
      refine ⟨fun k hk => ?_, .cons habove hpairwise⟩
      rcases List.mem_cons.mp hk with rfl | hk
      · exact hle
      · exact hle.trans (habove k hk).le

/-- A call leaves no number out, as long as it does not fail with one that it has taken. -/
theorem Gapless.run {r : Router} (h : r.Gapless) {call : Call}
    (hok : call.Nameless → (call.run r).1 = .ok ()) : (call.run r).2.Gapless := by
  obtain ⟨hnames, hcounter⟩ := run_names call r
  cases call with
  | add uri mask asked =>
    cases asked with
    | none =>
      rcases r.add_none uri mask with ⟨e, -, hadd⟩ | ⟨parsed, hadd⟩
      · have hfailed := hok rfl
        rw [Call.run, hadd] at hfailed
        cases hfailed
      · rw [Call.run, hadd]
        intro k hk
        rw [mem_names_enter]
        rcases Nat.lt_or_eq_of_le (Nat.le_of_lt_succ hk) with hlt | rfl
        · rcases Nat.lt_or_ge k r.nextIndex with hold | hnew
          · exact .inr (h k hold)
          · exact .inr (mem_names_of_lt_freeNumber (r := r) hnew hlt)
        · exact .inl rfl
    | some name => exact fun k hk => hnames _ (h k (hk.trans_eq hcounter))
  | addGlobals | amend => exact fun k hk => hnames _ (h k (hk.trans_eq hcounter))

theorem Gapless.afterCalls {r : Router} (h : r.Gapless) {calls : List Call}
    (hok : ∀ before call after, calls = before ++ call :: after → call.Nameless →
      (call.run (r.afterCalls before)).1 = .ok ()) : (r.afterCalls calls).Gapless := by
  induction calls generalizing r with
  | nil => exact h
  | cons call calls ih =>
    refine ih (h.run (hok [] call calls rfl)) fun before other after he => ?_
    exact hok (call :: before) other after (congrArg (call :: ·) he)

/-- Calls up to the first that fails leave no number out, if none fails or none takes a number. -/
theorem Gapless.perform {r : Router} (h : r.Gapless) {calls : List Call}
    (hok : (r.perform calls).1 = .ok () ∨ ∀ call ∈ calls, ¬call.Nameless) :
    (r.perform calls).2.Gapless := by
  induction calls generalizing r with
  | nil => exact h
  | cons call calls ih =>
    have hnext : (call.run r).2.Gapless := by
      refine h.run fun hnameless => ?_
      rcases hok with hok | hnone
      · rw [Router.perform] at hok
        split at hok
        · next hrun => rw [hrun]
        · cases hok
      · exact absurd hnameless (hnone call List.mem_cons_self)
    rw [Router.perform] at hok ⊢
    generalize call.run r = answer at hnext hok
    obtain ⟨result, r'⟩ := answer
    cases result with
    | ok u => exact ih hnext (hok.imp_right fun hnone other hother => hnone other (.tail _ hother))
    | error e => exact hnext

/-- An operation leaves no number out, unless it is one that may take numbers and fails. -/
theorem Gapless.operate {r : Router} (h : r.Gapless) {op : Operation}
    (hok : op.MayName → (op.run r).1 = .ok ()) : (op.run r).2.Gapless := by
  obtain ⟨hrun, hscript⟩ := op.run_eq r
  rw [hrun]
  refine h.perform ?_
  by_cases hmay : op.MayName
  · exact .inl (hscript (hok hmay))
  · refine .inr fun call hcall hnameless => hmay ?_
    cases op with
    | add | addDecorated =>
      cases List.mem_singleton.mp hcall
      exact hnameless
    | root | addGlobals =>
      cases List.mem_singleton.mp hcall
      cases hnameless
    | register => trivial
    | amend name change =>
      obtain ⟨position, -, rfl⟩ := Option.map_eq_some_iff.mp (Option.mem_toList.mp hcall)
      cases hnameless

theorem Gapless.foldl {r : Router} (h : r.Gapless) {ops : List Operation}
    (hok : ∀ before op after, ops = before ++ op :: after → op.MayName →
      (op.run (before.foldl (fun r op => (op.run r).2) r)).1 = .ok ()) :
    (ops.foldl (fun r op => (op.run r).2) r).Gapless := by
  induction ops generalizing r with
  | nil => exact h
  | cons op ops ih =>
    refine ih (h.operate (hok [] op ops rfl)) fun before other after he => ?_
    exact hok (op :: before) other after (congrArg (op :: ·) he)

theorem Made.gapless {r : Router} (h : r.Made) : r.Gapless := by
  obtain ⟨config, calls, hcalls⟩ := h.exists_calls
  have hnew : (ofConfig config).Gapless := fun k hk => absurd hk (Nat.not_lt_zero k)
  have hperform := hnew.perform (.inl (congrArg Prod.fst hcalls))
  rwa [hcalls] at hperform

/-- Wherever a run has come, a route without a name is entered under a number that is no name, which is found
in at most one step more than there are routes. The numbers increase along the run, also where routes fail.
As long as nothing fails that may have taken a number, each is the least that is no name. -/
theorem automaticNames :
    (∀ (r : Router) (ops : List Operation),
      ops.foldl (fun r op => (op.run r).2) r = r.afterCalls (Operation.calls ops r)) ∧
    ∀ start : Router, start.Made →
      (∀ calls : List Call,
        let r := start.afterCalls calls
        (∃ steps ≤ r.routes.size + 1, Naming r.names r.nextIndex steps r.freeNumber) ∧
        (∀ route ∈ r.routes.toList, route.name ≠ toString r.freeNumber) ∧
        (∀ uri mask, (∀ name, (r.add uri mask none).1 ≠ .error (.duplicateRoute name)) ∧
          (r.add uri mask none).2.nextIndex = r.freeNumber + 1 ∧
          ((r.add uri mask none).1 = .ok () → ∃ route : Route, route.name = toString r.freeNumber ∧
            (r.add uri mask none).2.routes = r.routes.push route)) ∧
        (numbers calls start).Pairwise (· < ·) ∧
        ((∀ before call after, calls = before ++ call :: after → call.Nameless →
            (call.run (start.afterCalls before)).1 = .ok ()) →
          IsLeast {k : Nat | toString k ∉ r.routes.toList.map Route.name} r.freeNumber)) ∧
      ∀ ops : List Operation,
        (∀ before op after, ops = before ++ op :: after → op.MayName →
          (op.run (before.foldl (fun r op => (op.run r).2) start)).1 = .ok ()) →
        let r := ops.foldl (fun r op => (op.run r).2) start
        IsLeast {k : Nat | toString k ∉ r.routes.toList.map Route.name} r.freeNumber := by
  refine ⟨fun r ops => (Operation.afterCalls_calls ops r).symm, fun start hstart => ⟨fun calls => ?_,
    fun ops hok => ?_⟩⟩
  · intro r
    have hreachable : r.Reachable := hstart.reachable.afterCalls calls
    have hnames := (consistent_of_reachable hreachable).mem_names
    refine ⟨?_, fun route hroute he => ?_, fun uri mask => ?_, (pairwise_numbers calls start).2,
      fun hok => ?_⟩
    · rw [← hreachable.size_names]
      exact naming_freeIndex r.freeNumber_fresh
    · exact r.freeNumber_fresh ((hnames _).mpr (he ▸ List.mem_map_of_mem hroute))
    · rcases r.add_none uri mask with ⟨e, hother, hadd⟩ | ⟨parsed, hadd⟩ <;> rw [hadd]
      · exact ⟨fun name he => hother name (Except.error.inj he), rfl, nofun⟩
      · exact ⟨fun name => nofun, rfl, fun _ => ⟨_, (entered_kept _ parsed _).name, rfl⟩⟩
    · simp only [← hnames]
      exact (hstart.gapless.afterCalls hok).isLeast
  · intro r
    have hreachable : r.Reachable := hstart.reachable.foldl ops
    simp only [← (consistent_of_reachable hreachable).mem_names]
    exact (hstart.gapless.foldl hok).isLeast

/-- Two routes without a name, and one between them that is called by the number in between. -/
theorem automaticNames_two :
    let calls := [.add "/a" .any none, .add "/b" .any (some "1"), .add "/c" .any none]
    let r := (ofConfig {}).afterCalls calls
    r.routes.toList.map Route.name = ["0", "1", "2"] ∧ numbers calls (ofConfig {}) = [0, 2] ∧
      IsLeast {k : Nat | toString k ∉ r.routes.toList.map Route.name} 3 := by
  intro calls r
  obtain ⟨-, hruns⟩ := automaticNames
  obtain ⟨hcalls, -⟩ := hruns (ofConfig {}) (.new {})
  obtain ⟨-, -, -, -, hleast⟩ := hcalls calls
  have hfree : r.freeNumber = 3 := by decide +kernel
  have hnone : ((ofConfig {}).perform calls).1 = .ok () := by decide +kernel
  refine ⟨by decide +kernel, by decide +kernel, ?_⟩
  rw [← hfree]
  refine hleast fun before call after hsplit _ => ?_
  rw [hsplit] at hnone
  exact run_of_perform hnone

end Router
end Routing
