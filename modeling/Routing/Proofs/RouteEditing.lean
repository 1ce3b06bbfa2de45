import Routing.Proofs.KeyedLists
import Routing.Proofs.Operation
import Routing.Proofs.RouteChanges

/-! Changing a route in place, where a pattern is overwritten before it is known whether the route compiles
with it: a change that fails leaves the route as it was, and the regular expression never goes stale. -/
namespace Routing

namespace Route

/-- A change of a route in place: what was written before a failure stays. -/
abbrev Edit := EStateM Error Route

namespace Edit

/-- Puts a pattern at the position, and gives the one that stood there. -/
def replace (position : Nat) (pattern : String) : Edit String :=
  modifyGet fun r =>
    ((r.patterns[position]?.map Prod.snd).getD "",
      { r with patterns := r.patterns.modify position fun p => (p.1, pattern) })

/-- Compiles the regular expression anew. If that fails, the old one stays. -/
def rebuild : Edit Unit := do
  let r ← get
  let regex ← MonadExcept.ofExcept (compileRegex r.segments r.patterns)
  modify fun r => { r with regex }

/-- Overwrites the pattern of a parameter, and puts the old one back if the route does not compile with
the new one. -/
def specify (name pattern : String) : Edit Unit := do
  let r ← get
  match r.parameterNames.idxOf? name with
  | none => return
  | some position =>
    MonadExcept.ofExcept (validatePattern name pattern)
    let previous ← replace position pattern
    try rebuild
    catch e =>
      let _ ← replace position previous
      throw e

def setMethod (bits : Nat) : Edit Unit := do
  let mask ← MonadExcept.ofExcept (MethodMask.ofBits bits)
  modify fun r => { r with method := some mask }

def set (key value : String) : Edit Unit := modify (·.set key value)

/-- All or nothing: the new route, or the old one with the error. -/
def atomic (r : Route) : Except Error Route → EStateM.Result Error Route Unit
  | .ok r' => .ok () r'
  | .error e => .error e r

theorem run_ofExcept {α : Type} (x : Except Error α) (r : Route) :
    (MonadExcept.ofExcept x : Edit α).run r =
      match x with
      | .ok a => .ok a r
      | .error e => .error e r := by
  cases x <;> rfl

/-- The handler goes on with the route that the failure leaves. -/
theorem run_tryCatch (edit : Edit Unit) (handle : Error → Edit Unit) (r : Route) :
    (tryCatch edit handle).run r =
      match edit.run r with
      | .ok u r' => .ok u r'
      | .error e r' => (handle e).run r' := by
  change EStateM.tryCatch edit handle r = _
  unfold EStateM.tryCatch EStateM.run
  cases edit r <;> rfl

theorem rebuild_run (r : Route) :
    rebuild.run r =
      atomic r ((compileRegex r.segments r.patterns).map fun regex => { r with regex }) := by
  simp only [rebuild, EStateM.run_bind, EStateM.run_get, run_ofExcept]
  cases compileRegex r.segments r.patterns <;> rfl

theorem replace_run (r : Route) (position : Nat) (pattern : String) :
    (replace position pattern).run r =
      .ok ((r.patterns[position]?.map Prod.snd).getD "")
        { r with patterns := r.patterns.modify position fun p => (p.1, pattern) } := rfl

end Edit

section Overwriting

variable {patterns : List (String × String)} {name : String} {position : Nat}

/-- Only one pattern stands under the name of a parameter. -/
theorem modify_eq_respecified (hnodup : (patterns.map Prod.fst).Nodup)
    (hposition : (patterns.map Prod.fst).idxOf? name = some position) (pattern : String) :
    patterns.modify position (fun p => (p.1, pattern)) = respecified patterns name pattern := by
  obtain ⟨hlt, hname, -⟩ := List.idxOf?_eq_some_iff.mp hposition
  have hname : (patterns.map Prod.fst)[position]? = some name := by
    rw [List.getElem?_eq_getElem hlt, hname]
  refine List.ext_getElem? fun i => ?_
  unfold respecified
  rw [List.getElem?_modify, List.getElem?_map]
  cases hat : patterns[i]? with
  | none => rfl
  | some p =>
    have hp : (patterns.map Prod.fst)[i]? = some p.1 := by rw [List.getElem?_map, hat, Option.map_some]
    by_cases hi : position = i
    · subst hi
      have hkey : p.1 = name := Option.some.inj (hp.symm.trans hname)
      simp [hkey]
    · have hkey : p.1 ≠ name := by
        intro he
        apply hi
        apply (List.getElem?_inj hlt hnodup).mp
        rw [hname, hp, he]
      simp [hi, hkey]

theorem modify_back {previous : String × String} (hprevious : patterns[position]? = some previous)
    (pattern : String) :
    (patterns.modify position fun p => (p.1, pattern)).modify position (fun p => (p.1, previous.2)) =
      patterns := by
  refine List.ext_getElem? fun i => ?_
  rw [List.getElem?_modify, List.getElem?_modify]
  by_cases hi : position = i
  · subst hi
    simp [hprevious]
  · simp [hi]

end Overwriting

/-- Giving a parameter another pattern in place is giving it all at once or not at all. -/
theorem Edit.specify_run {r : Route} (hnodup : r.parameterNames.Nodup) (name pattern : String) :
    (Edit.specify name pattern).run r = Edit.atomic r (r.specify name pattern) := by
  rw [specify_eq]
  simp only [Edit.specify, EStateM.run_bind, EStateM.run_get]
  cases hposition : r.parameterNames.idxOf? name with
  | none =>
    rw [if_neg (List.idxOf?_eq_none_iff.mp hposition)]
    rfl
  | some position =>
    obtain ⟨hlt, hname, -⟩ := List.idxOf?_eq_some_iff.mp hposition
    have hmem : name ∈ r.parameterNames := hname ▸ List.getElem_mem hlt
    have hlt : position < r.patterns.length := by simpa [parameterNames] using hlt
    have hprevious := List.getElem?_eq_getElem hlt
    have hnew := modify_eq_respecified hnodup hposition pattern
    have hold := modify_back hprevious pattern
    rw [if_pos hmem]
    simp only [EStateM.run_bind, Edit.run_ofExcept]
    cases validatePattern name pattern with
    | error e => rfl
    | ok u =>
      dsimp only
      rw [Edit.replace_run]
      dsimp only
      rw [Edit.run_tryCatch, Edit.rebuild_run]
      dsimp only
      rw [hnew, hprevious]
      cases hregex : compileRegex r.segments (respecified r.patterns name pattern) with
      | ok regex => rfl
      | error e =>
        simp only [Option.map_some, Option.getD_some, EStateM.run_bind, Edit.replace_run, Except.map,
          Edit.atomic]
        rw [← hnew, hold]
        rfl

theorem Edit.setMethod_run (r : Route) (bits : Nat) :
    (Edit.setMethod bits).run r = Edit.atomic r (r.setMethod bits) := by
  simp only [Edit.setMethod, Route.setMethod, EStateM.run_bind, Edit.run_ofExcept]
  cases MethodMask.ofBits bits <;> rfl

theorem Edit.addParameters_run (r : Route) (pairs : List (String × String)) :
    (pairs.forM fun (key, value) => Edit.set key value).run r = .ok () (r.addParameters pairs) := by
  induction pairs generalizing r with
  | nil => rfl
  | cons pair pairs ih => exact ih (r.set pair.1 pair.2)

end Route

namespace RouteChange

def edit : RouteChange → Route.Edit Unit
  | specify param pattern => Route.Edit.specify param pattern
  | set key value => Route.Edit.set key value
  | addParameters pairs => pairs.forM fun (key, value) => Route.Edit.set key value
  | setMethod bits => Route.Edit.setMethod bits

theorem edit_run {r : Route} (hnodup : r.parameterNames.Nodup) (change : RouteChange) :
    change.edit.run r = Route.Edit.atomic r (change.apply r) := by
  cases change with
  | specify param pattern => exact Route.Edit.specify_run hnodup param pattern
  | set key value => rfl
  | addParameters pairs => exact Route.Edit.addParameters_run r pairs
  | setMethod bits => exact Route.Edit.setMethod_run r bits

def run (change : RouteChange) (r : Route) : Except Error Unit × Route :=
  match change.edit.run r with
  | .ok () r' => (.ok (), r')
  | .error e r' => (.error e, r')

/-- A change in place comes to the changed route, or to an error with the route as it was. -/
theorem run_eq {r : Route} (hnodup : r.parameterNames.Nodup) (change : RouteChange) :
    change.run r = match change.apply r with
      | .ok r' => (.ok (), r')
      | .error e => (.error e, r) := by
  unfold run
  rw [edit_run hnodup]
  cases change.apply r <;> rfl

theorem run_of_ok {r r' : Route} (hnodup : r.parameterNames.Nodup) {change : RouteChange}
    (h : change.apply r = .ok r') : change.run r = (.ok (), r') := by
  rw [run_eq hnodup, h]

theorem run_of_error {r : Route} (hnodup : r.parameterNames.Nodup) {change : RouteChange} {e : Error}
    (h : change.apply r = .error e) : change.run r = (.error e, r) := by
  rw [run_eq hnodup, h]

/-- The pattern that the change gives to a parameter, if it succeeds. -/
def specification? (change : RouteChange) (r : Route) : Option (String × String) :=
  match change, (change.run r).1 with
  | specify param pattern, .ok () => some (param, pattern)
  | _, _ => none

end RouteChange

namespace Route

/-- The route after changes one after the other, whether they succeed or fail. -/
def afterAll (r : Route) (changes : List RouteChange) : Route :=
  changes.foldl (fun r change => (change.run r).2) r

/-- The patterns that were given by those of the changes that succeeded, in their order. -/
def specifications (r : Route) : List RouteChange → List (String × String)
  | [] => []
  | change :: changes => (change.specification? r).toList ++ specifications (change.run r).2 changes

theorem overridden_append (patterns others more : List (String × String)) :
    overridden patterns (others ++ more) = overridden (overridden patterns others) more := by
  induction others generalizing patterns with
  | nil => rw [overridden_nil, List.nil_append]
  | cons pair others ih =>
    obtain ⟨name, pattern⟩ := pair
    rw [List.cons_append, overridden_cons, ih, overridden_cons]

/-- The pattern of a parameter is the last that was given to it, or else the one that it had. -/
theorem mem_overridden {patterns others : List (String × String)} {name pattern : String} :
    (name, pattern) ∈ overridden patterns others ↔
      (name ∈ patterns.map Prod.fst ∧ Keyed.Last others name pattern) ∨
      ((name, pattern) ∈ patterns ∧ name ∉ others.map Prod.fst) := by
  unfold overridden
  rw [List.mem_map]
  constructor
  · rintro ⟨⟨key, old⟩, hmem, hpair⟩
    obtain ⟨rfl, hvalue⟩ := Prod.mk.inj hpair
    cases hlast : others.reverse.lookup key with
    | none =>
      rw [hlast] at hvalue
      have hold : old = pattern := hvalue
      exact .inr ⟨hold ▸ hmem, (Keyed.lookup_reverse_eq_none others key).mp hlast⟩
    | some value =>
      rw [hlast] at hvalue
      have hnew : value = pattern := hvalue
      exact .inl ⟨List.mem_map_of_mem hmem, Keyed.lookup_reverse_eq_some.mp (hnew ▸ hlast)⟩
  · rintro (⟨hname, hlast⟩ | ⟨hmem, hother⟩)
    · obtain ⟨p, hp, rfl⟩ := List.mem_map.mp hname
      refine ⟨p, hp, ?_⟩
      rw [Keyed.lookup_reverse_eq_some.mpr hlast, Option.getD_some]
    · refine ⟨(name, pattern), hmem, ?_⟩
      rw [(Keyed.lookup_reverse_eq_none others name).mpr hother, Option.getD_none]

/-- What one change does, whether it succeeds or fails. -/
theorem run_step {r : Route} (hr : r.WellFormed) (change : RouteChange) :
    (change.run r).2.WellFormed ∧ r.Kept (change.run r).2 ∧
      (change.run r).2.patterns = overridden r.patterns (change.specification? r).toList := by
  cases happly : change.apply r with
  | error e =>
    have hrun := RouteChange.run_of_error hr.nodup happly
    have hnone : change.specification? r = none := by
      unfold RouteChange.specification?
      rw [hrun]
      cases change <;> rfl
    rw [hrun, hnone]
    exact ⟨hr, .refl r, (overridden_nil r.patterns).symm⟩
  | ok r' =>
    have hrun := RouteChange.run_of_ok hr.nodup happly
    rw [hrun]
    refine ⟨RouteChange.apply_wellFormed hr happly, RouteChange.apply_kept happly, ?_⟩
    unfold RouteChange.specification?
    rw [hrun]
    cases change with
    | specify name pattern =>
      change _ = overridden r.patterns [(name, pattern)]
      rw [overridden_cons, overridden_nil]
      rcases specify_eq_ok.mp happly with ⟨hother, rfl⟩ | ⟨-, -, regex, -, rfl⟩
      · exact (respecified_of_not_mem hother pattern).symm
      · rfl
    | set key value =>
      cases happly
      exact (overridden_nil r.patterns).symm
    | addParameters pairs =>
      cases happly
      obtain ⟨defaults, hdefaults⟩ := r.addParameters_ok pairs
      rw [hdefaults]
      exact (overridden_nil r.patterns).symm
    | setMethod bits =>
      obtain ⟨mask, rfl⟩ := setMethod_ok happly
      exact (overridden_nil r.patterns).symm

/-- What any number of changes do. -/
theorem afterAll_wellFormed {r : Route} (hr : r.WellFormed) (changes : List RouteChange) :
    (r.afterAll changes).WellFormed ∧ r.Kept (r.afterAll changes) ∧
      (r.afterAll changes).patterns = overridden r.patterns (r.specifications changes) := by
  induction changes generalizing r with
  | nil =>
    refine ⟨hr, .refl r, ?_⟩
    exact (overridden_nil r.patterns).symm
  | cons change changes ih =>
    obtain ⟨hstep, hkept, hpatterns⟩ := run_step hr change
    obtain ⟨hlast, hrest, hall⟩ := ih hstep
    refine ⟨hlast, hkept.trans hrest, ?_⟩
    calc (r.afterAll (change :: changes)).patterns
        = overridden (change.run r).2.patterns ((change.run r).2.specifications changes) := hall
      _ = overridden r.patterns (r.specifications (change :: changes)) := by
        rw [hpatterns, ← overridden_append]
        rfl

/-- The text of a segment in a regular expression: a literal is quoted, and a parameter is a group around
its pattern. -/
inductive SplicedAs (patterns : List (String × String)) : Segment → String → Prop
  | literal (text : String) : SplicedAs patterns (.literal text) (Pattern.quote text)
  | param {name pattern : String} (h : (name, pattern) ∈ patterns) :
    SplicedAs patterns (.param name) ("(" ++ pattern ++ ")")

/-- The regular expression is the one of the segments and the patterns that the route has now. -/
def UpToDate (r : Route) : Prop :=
  match r.regex with
  | none => r.isStatic = true
  | some regex =>
    r.isStatic = false ∧
      (∃ texts, List.Forall₂ (SplicedAs r.patterns) r.segments texts ∧
        regex.source = String.join texts) ∧
      Pattern.compile? ("^" ++ regex.source ++ "$") = some regex.anchored

theorem spliced_texts {segments : List Segment} {patterns : List (String × String)}
    (hnodup : (patterns.map Prod.fst).Nodup)
    (hnames : segments.filterMap Segment.param? = patterns.map Prod.fst) :
    ∃ texts, List.Forall₂ (SplicedAs patterns) segments texts ∧
      spliced segments patterns = String.join texts := by
  refine ⟨_, ?_, rfl⟩
  rw [List.forall₂_map_right_iff, List.forall₂_same]
  intro segment hsegment
  cases segment with
  | literal text => exact .literal text
  | param name =>
    have hname : name ∈ patterns.map Prod.fst := by
      rw [← hnames]
      exact List.mem_filterMap.mpr ⟨.param name, hsegment, rfl⟩
    obtain ⟨p, hp, rfl⟩ := List.mem_map.mp hname
    have hlookup : (patterns.lookup p.1).getD "" = p.2 := by rw [Keyed.lookup_of_mem hnodup hp]; rfl
    dsimp only
    rw [hlookup]
    exact .param hp

theorem WellFormed.upToDate {r : Route} (hr : r.WellFormed) : r.UpToDate := by
  have hregex := hr.regex
  unfold compileRegex at hregex
  unfold UpToDate
  split_ifs at hregex with hstatic
  · rw [← Except.ok.inj hregex]
    exact hstatic
  · dsimp only at hregex
    split at hregex
    · next anchored hcompile =>
      rw [← Except.ok.inj hregex]
      obtain ⟨texts, htexts, hsource⟩ := spliced_texts hr.nodup hr.names
      exact ⟨by simpa [isStatic] using hstatic, ⟨texts, htexts, hsource⟩, hcompile⟩
    · cases hregex

theorem change_kept {now after : Route} (hnodup : now.parameterNames.Nodup) {change : RouteChange}
    {e : Error} (h : change.run now = (.error e, after)) : after = now := by
  cases happly : change.apply now with
  | ok next =>
    rw [RouteChange.run_of_ok hnodup happly] at h
    cases h
  | error e' =>
    rw [RouteChange.run_of_error hnodup happly] at h
    exact (Prod.mk.inj h).2.symm

/-- However a route that was read is changed in place, by changes that succeed or fail: its template, path,
segments and parameters stay, its regular expression is the one of its segments and patterns, and each
pattern is the last that was given successfully or else the one that was read. A change comes to what it
gives when the route is not written to before it is known to succeed, and one that fails leaves the route as
it was. -/
theorem afterAll_upToDate {defaultPattern template : String} {method : Option MethodMask} {r : Route}
    (h : parse defaultPattern template method = .ok r) (changes : List RouteChange) :
    let now := r.afterAll changes
    (now.segments.filterMap Segment.param? = now.parameterNames ∧ now.parameterNames.Nodup) ∧
    (now.template = template ∧ now.path = r.path ∧ now.segments = r.segments ∧
      now.parameterNames = r.parameterNames) ∧
    (now.UpToDate ∧ compileRegex now.segments now.patterns = .ok now.regex) ∧
    (∀ name pattern, (name, pattern) ∈ now.patterns ↔
      (name ∈ r.parameterNames ∧ Keyed.Last (r.specifications changes) name pattern) ∨
      ((name, pattern) ∈ r.patterns ∧ name ∉ (r.specifications changes).map Prod.fst)) ∧
    ∀ change : RouteChange,
      (change.run now = match change.apply now with
        | .ok next => (.ok (), next)
        | .error e => (.error e, now)) ∧
      ∀ e after, change.run now = (.error e, after) → after = now := by
  intro now
  obtain ⟨htemplate, -, -, -, -, hr⟩ := parse_ok h
  obtain ⟨hnow, hkept, hpatterns⟩ := afterAll_wellFormed hr changes
  refine ⟨⟨hnow.names, hnow.nodup⟩,
    ⟨hkept.template.trans htemplate, hkept.path, hkept.segments, hkept.parameterNames⟩,
    ⟨hnow.upToDate, hnow.regex⟩, fun name pattern => ?_, fun change => ?_⟩
  · rw [hpatterns]
    exact mem_overridden
  · constructor
    · exact change.run_eq hnow.nodup
    · intro e after hrun
      exact change_kept hnow.nodup hrun

/-- A pattern is given, and then two that fail: one has a group, and the other is no expression. -/
theorem afterAll_upToDate_id :
    let changes : List RouteChange :=
      [.specify "id" "\\d+", .specify "id" "(\\d)", .setMethod 0, .specify "id" "[", .set "id" "7"]
    ∃ r, parse "[^/]+" "/\x7bid\x7d" none = .ok r ∧ (r.afterAll changes).UpToDate ∧
      (r.afterAll changes).patterns = [("id", "\\d+")] ∧
      (r.afterAll changes).regex.map (·.source) = some "/(\\d+)" := by
  intro changes
  have hread : (parse "[^/]+" "/\x7bid\x7d" none).toOption.map (fun r =>
      ((r.afterAll changes).patterns, (r.afterAll changes).regex.map (·.source))) =
        some ([("id", "\\d+")], some "/(\\d+)") := by
    decide +kernel
  obtain ⟨r, hr, hfields⟩ := Option.map_eq_some_iff.mp hread
  obtain ⟨hpatterns, hregex⟩ := Prod.mk.inj hfields
  have hok := ok_of_toOption hr
  obtain ⟨-, -, ⟨hcurrent, -⟩, -, -⟩ := afterAll_upToDate hok changes
  exact ⟨r, hok, hcurrent, hpatterns, hregex⟩

end Route
end Routing
