import Mathlib.Data.List.Nodup
import Mathlib.Tactic.SplitIfs
import Routing.Proofs.Fragments
import Routing.Proofs.Operation
import Routing.Proofs.Outcomes

/-! Routes as reading and changes leave them: the parameters are those of the segments, every
pattern is valid by itself, and the regular expression is the one of the current patterns. -/
namespace Routing

def Segment.param? : Segment → Option String
  | literal _ => none
  | param name => some name

namespace Route

/-- What no change touches. -/
structure Kept (before after : Route) : Prop where
  name : after.name = before.name
  template : after.template = before.template
  segments : after.segments = before.segments
  parameterNames : after.parameterNames = before.parameterNames

structure WellFormed (r : Route) : Prop where
  names : r.segments.filterMap Segment.param? = r.parameterNames
  nodup : r.parameterNames.Nodup
  valid : ∀ p ∈ r.patterns, validatePattern p.1 p.2 = .ok ()
  regex : compileRegex r.segments r.patterns = .ok r.regex

theorem WellFormed.sound {r : Route} (hr : r.WellFormed) : Sound r.patterns := ⟨hr.nodup, hr.valid⟩

theorem Kept.refl (r : Route) : r.Kept r := ⟨rfl, rfl, rfl, rfl⟩

theorem Kept.trans {a b c : Route} (hab : a.Kept b) (hbc : b.Kept c) : a.Kept c :=
  ⟨hbc.name.trans hab.name, hbc.template.trans hab.template, hbc.segments.trans hab.segments,
    hbc.parameterNames.trans hab.parameterNames⟩

theorem Kept.path {before after : Route} (h : before.Kept after) : after.path = before.path := by
  unfold Route.path
  rw [h.segments]

theorem isStatic_iff (r : Route) : r.isStatic = true ↔ r.parameterNames = [] := by
  unfold isStatic parameterNames
  rw [List.isEmpty_iff, List.map_eq_nil_iff]

theorem Kept.isStatic {before after : Route} (h : before.Kept after) :
    after.isStatic = before.isStatic := by
  rw [Bool.eq_iff_iff, isStatic_iff, isStatic_iff, h.parameterNames]

/-- The patterns with another one for a name. -/
def respecified (patterns : List (String × String)) (name pattern : String) :
    List (String × String) :=
  patterns.map fun (n, p) => if n = name then (n, pattern) else (n, p)

theorem respecified_names (patterns : List (String × String)) (name pattern : String) :
    (respecified patterns name pattern).map Prod.fst = patterns.map Prod.fst := by
  unfold respecified
  rw [List.map_map]
  refine List.map_congr_left fun (n, p) _ => ?_
  by_cases h : n = name <;> simp [h]

theorem of_mem_respecified {patterns : List (String × String)} {name pattern : String}
    {p : String × String} (h : p ∈ respecified patterns name pattern) :
    p = (name, pattern) ∨ p ∈ patterns := by
  obtain ⟨⟨n, q⟩, hq, rfl⟩ := List.mem_map.mp h
  dsimp only
  split_ifs with he
  · exact .inl (by rw [he])
  · exact .inr hq

theorem Sound.respecified {patterns : List (String × String)} (h : Sound patterns)
    {name pattern : String} (hvalid : validatePattern name pattern = .ok ()) :
    Sound (respecified patterns name pattern) := by
  refine ⟨(respecified_names patterns name pattern).symm ▸ h.nodup, fun p hp => ?_⟩
  rcases of_mem_respecified hp with rfl | hp
  · exact hvalid
  · exact h.valid p hp

/-- A parameter gets a pattern that is valid by itself, if that compiles together with the others. -/
theorem specify_eq (r : Route) (name pattern : String) :
    r.specify name pattern =
      if name ∈ r.parameterNames then
        (validatePattern name pattern).bind fun _ =>
          (compileRegex r.segments (respecified r.patterns name pattern)).map fun regex =>
            { r with patterns := respecified r.patterns name pattern, regex }
      else .ok r := by
  unfold specify respecified
  simp only [Bool.not_eq_true', bind, Except.bind, pure, Except.pure]
  by_cases hname : name ∈ r.parameterNames
  · have hcontains : r.parameterNames.contains name = true := by simpa using hname
    rw [if_pos hname, hcontains, if_neg (by decide)]
    cases validatePattern name pattern with
    | error e => rfl
    | ok u =>
      dsimp only
      cases compileRegex r.segments _ <;> rfl
  · have hcontains : r.parameterNames.contains name = false := by simpa using hname
    rw [if_neg hname, hcontains, if_pos rfl]

theorem specify_eq_ok {r r' : Route} {name pattern : String} :
    r.specify name pattern = .ok r' ↔
      (name ∉ r.parameterNames ∧ r' = r) ∨
      (name ∈ r.parameterNames ∧ validatePattern name pattern = .ok () ∧
        ∃ regex, compileRegex r.segments (respecified r.patterns name pattern) = .ok regex ∧
          r' = { r with patterns := respecified r.patterns name pattern, regex }) := by
  rw [specify_eq]
  split_ifs with hname
  · cases validatePattern name pattern with
    | error e => simp [Except.bind, hname]
    | ok u =>
      cases compileRegex r.segments (respecified r.patterns name pattern) with
      | error e => simp [Except.bind, Except.map, hname]
      | ok regex => simp [Except.bind, Except.map, hname, eq_comm]
  · simp [hname, eq_comm]

/-- Another pattern fails by itself, or else with the whole. -/
theorem specify_eq_error {r : Route} {name pattern : String} {e : Error} :
    r.specify name pattern = .error e ↔
      name ∈ r.parameterNames ∧ (validatePattern name pattern = .error e ∨
        validatePattern name pattern = .ok () ∧
          compileRegex r.segments (respecified r.patterns name pattern) = .error e) := by
  rw [specify_eq]
  split_ifs with hname
  · cases validatePattern name pattern with
    | error e' => simp [Except.bind, hname]
    | ok u =>
      cases compileRegex r.segments (respecified r.patterns name pattern) with
      | error e' => simp [Except.bind, Except.map, hname]
      | ok regex => simp [Except.bind, Except.map]
  · simp [hname]

theorem validatePattern_ok {name pattern : String} (h : validatePattern name pattern = .ok ()) :
    ∃ p, Pattern.compile? pattern = some p ∧ p.groupCount = 0 := by
  unfold validatePattern at h
  split at h
  · cases h
  · next p hp =>
    split_ifs at h with hcount
    exact ⟨p, hp, hcount⟩

theorem setMethod_ok {r r' : Route} {bits : Nat} (h : r.setMethod bits = .ok r') :
    ∃ mask, r' = { r with method := some mask } := by
  simp only [setMethod, bind, Except.bind, pure, Except.pure] at h
  cases hm : MethodMask.ofBits bits with
  | error e => simp [hm] at h
  | ok mask =>
    rw [hm] at h
    exact ⟨mask, (Except.ok.inj h).symm⟩

theorem addParameters_ok (r : Route) (pairs : List (String × String)) :
    ∃ defaults, r.addParameters pairs = { r with defaults } := by
  induction pairs generalizing r with
  | nil => exact ⟨r.defaults, rfl⟩
  | cons pair pairs ih => exact ih (r.set pair.1 pair.2)

end Route

namespace RouteChange

/-- All that a change can do: new defaults, a new mask, or another valid pattern for a parameter. -/
theorem apply_ok {change : RouteChange} {r r' : Route} (h : change.apply r = .ok r') :
    (∃ method defaults, r' = { r with method, defaults }) ∨
      ∃ name pattern regex, name ∈ r.parameterNames ∧
        Route.validatePattern name pattern = .ok () ∧
        Route.compileRegex r.segments (Route.respecified r.patterns name pattern) = .ok regex ∧
        r' = { r with patterns := Route.respecified r.patterns name pattern, regex } := by
  cases change with
  | specify param pattern =>
    rcases Route.specify_eq_ok.mp h with ⟨-, rfl⟩ | ⟨hm, hv, regex, hc, rfl⟩
    · exact .inl ⟨r'.method, r'.defaults, rfl⟩
    · exact .inr ⟨param, pattern, regex, hm, hv, hc, rfl⟩
  | set key value =>
    cases h
    exact .inl ⟨r.method, _, rfl⟩
  | addParameters pairs =>
    cases h
    obtain ⟨defaults, hd⟩ := r.addParameters_ok pairs
    exact .inl ⟨r.method, defaults, hd⟩
  | setMethod bits =>
    obtain ⟨mask, rfl⟩ := Route.setMethod_ok h
    exact .inl ⟨some mask, r.defaults, rfl⟩

theorem apply_kept {change : RouteChange} {r r' : Route} (h : change.apply r = .ok r') :
    r.Kept r' := by
  rcases apply_ok h with ⟨method, defaults, rfl⟩ | ⟨name, pattern, regex, -, -, -, rfl⟩
  · exact ⟨rfl, rfl, rfl, rfl⟩
  · exact ⟨rfl, rfl, rfl, Route.respecified_names r.patterns name pattern⟩

theorem apply_wellFormed {change : RouteChange} {r r' : Route} (hr : r.WellFormed)
    (h : change.apply r = .ok r') : r'.WellFormed := by
  have hk := apply_kept h
  refine ⟨by rw [hk.segments, hk.parameterNames, hr.names], hk.parameterNames ▸ hr.nodup, ?_, ?_⟩
  · rcases apply_ok h with ⟨method, defaults, rfl⟩ | ⟨name, pattern, regex, -, hv, -, rfl⟩
    · exact hr.valid
    · exact (hr.sound.respecified hv).valid
  · rcases apply_ok h with ⟨method, defaults, rfl⟩ | ⟨name, pattern, regex, -, -, hc, rfl⟩
    · exact hr.regex
    · exact hc

end RouteChange

namespace Route

theorem map_fst_fragments (defaultPattern : String) (pieces : List Piece) :
    (pieces.filterMap (fragment? defaultPattern)).map Prod.fst =
      (pieces.map segment).filterMap Segment.param? := by
  rw [List.map_filterMap, List.filterMap_map]
  refine List.filterMap_congr fun piece _ => ?_
  cases piece <;> rfl

/-- All that reading a template gives. -/
theorem parse_ok {defaultPattern template : String} {method : Option MethodMask} {r : Route}
    (h : parse defaultPattern template method = .ok r) :
    r.template = template ∧ r.method = method ∧ r.name = "" ∧ r.defaults = {} ∧
      r.segments = (Piece.ofTemplate template).map segment ∧ r.WellFormed := by
  obtain ⟨hsound, regex, hregex, rfl⟩ := parse_eq_ok.mp h
  have hnames := map_fst_fragments defaultPattern (Piece.ofTemplate template)
  exact ⟨rfl, rfl, rfl, rfl, rfl, ⟨hnames.symm, hsound.nodup, hsound.valid, hregex⟩⟩

theorem parse_patterns {defaultPattern template : String} {method : Option MethodMask} {r : Route}
    (h : parse defaultPattern template method = .ok r) :
    r.patterns = fragments defaultPattern template := by
  obtain ⟨-, regex, -, rfl⟩ := parse_eq_ok.mp h
  rfl

/-- Gives parameters other patterns, one after the other. -/
def specifyAll (r : Route) (patterns : List (String × String)) : Except Error Route :=
  patterns.foldlM (fun r (name, pattern) => r.specify name pattern) r

/-- The patterns, with others for some of the names. The last that is given for a name counts. -/
def overridden (patterns others : List (String × String)) : List (String × String) :=
  patterns.map fun p => (p.1, (others.reverse.lookup p.1).getD p.2)

theorem overridden_nil (patterns : List (String × String)) : overridden patterns [] = patterns :=
  List.map_id patterns

theorem overridden_cons (patterns : List (String × String)) (name pattern : String)
    (others : List (String × String)) :
    overridden patterns ((name, pattern) :: others) =
      overridden (respecified patterns name pattern) others := by
  unfold overridden respecified
  rw [List.map_map]
  refine List.map_congr_left fun (other, old) _ => ?_
  rw [List.reverse_cons, List.lookup_append, Function.comp_apply]
  by_cases hname : other = name
  · subst hname
    cases h : others.reverse.lookup other <;> simp [h]
  · simp [hname, List.lookup_cons, beq_false_of_ne hname]

/-- To give a parameter the pattern that it has changes nothing. -/
theorem respecified_eq_self {patterns : List (String × String)} {name pattern : String}
    (h : ∀ old, (name, old) ∈ patterns → old = pattern) :
    respecified patterns name pattern = patterns := by
  unfold respecified
  refine (List.map_congr_left fun (other, old) hp => ?_).trans (List.map_id patterns)
  by_cases hother : other = name
  · subst hother
    rw [h old hp]
    exact if_pos rfl
  · exact if_neg hother

theorem respecified_of_not_mem {patterns : List (String × String)} {name : String}
    (h : name ∉ patterns.map Prod.fst) (pattern : String) :
    respecified patterns name pattern = patterns :=
  respecified_eq_self fun _ hold => absurd (List.mem_map_of_mem hold) h

theorem respecified_of_mem {patterns : List (String × String)} {name pattern : String}
    (hnodup : (patterns.map Prod.fst).Nodup) (h : (name, pattern) ∈ patterns) :
    respecified patterns name pattern = patterns := by
  refine respecified_eq_self fun old hold => ?_
  have hlookup : patterns.lookup name = some old := Keyed.lookup_of_mem hnodup hold
  rw [Keyed.lookup_of_mem hnodup h] at hlookup
  exact (Option.some.inj hlookup).symm

theorem specifyAll_ok {r r' : Route} {patterns : List (String × String)}
    (h : r.specifyAll patterns = .ok r') :
    r.Kept r' ∧ r'.method = r.method ∧ r'.defaults = r.defaults ∧ (r.WellFormed → r'.WellFormed) ∧
      r'.patterns = overridden r.patterns patterns := by
  induction patterns generalizing r with
  | nil =>
    cases h
    exact ⟨.refl r', rfl, rfl, id, (overridden_nil r'.patterns).symm⟩
  | cons pair patterns ih =>
    obtain ⟨name, pattern⟩ := pair
    have hcons : r.specifyAll ((name, pattern) :: patterns) =
        (r.specify name pattern).bind (·.specifyAll patterns) := rfl
    rw [hcons] at h
    cases hstep : r.specify name pattern with
    | error e => simp [hstep, Except.bind] at h
    | ok next =>
      rw [hstep] at h
      obtain ⟨hkept, hmethod, hdefaults, hwell, hpatterns⟩ := ih h
      have hchange : (RouteChange.specify name pattern).apply r = .ok next := hstep
      obtain ⟨hmethod', hdefaults', hpatterns'⟩ : next.method = r.method ∧
          next.defaults = r.defaults ∧ next.patterns = respecified r.patterns name pattern := by
        rcases specify_eq_ok.mp hstep with ⟨hother, rfl⟩ | ⟨-, -, regex, -, rfl⟩
        · exact ⟨rfl, rfl, (respecified_of_not_mem hother pattern).symm⟩
        · exact ⟨rfl, rfl, rfl⟩
      refine ⟨(RouteChange.apply_kept hchange).trans hkept, hmethod.trans hmethod',
        hdefaults.trans hdefaults', fun hr => hwell (RouteChange.apply_wellFormed hr hchange), ?_⟩
      rw [hpatterns, hpatterns', overridden_cons]

theorem getElem?_set (r : Route) (first value key : String) :
    (r.set first value).defaults[key]? =
      r.defaults[key]?.or (if key = first then some value else none) := by
  unfold set
  rw [Std.TreeMap.getElem?_insertIfNew]
  simp only [Std.LawfulEqCmp.compare_eq_iff_eq]
  by_cases hkey : key = first
  · subst hkey
    by_cases hmem : key ∈ r.defaults
    · simp [hmem]
    · simp [hmem]
  · simp [hkey, Ne.symm hkey]

/-- The first value that is added for a key is its default, unless it has one. -/
theorem getElem?_addParameters (r : Route) (pairs : List (String × String)) (key : String) :
    (r.addParameters pairs).defaults[key]? = r.defaults[key]?.or (pairs.lookup key) := by
  induction pairs generalizing r with
  | nil => exact (Option.or_none).symm
  | cons pair pairs ih =>
    obtain ⟨first, value⟩ := pair
    have hstep : r.addParameters ((first, value) :: pairs) =
        (r.set first value).addParameters pairs := rfl
    rw [hstep, ih, getElem?_set, List.lookup_cons, Option.or_assoc]
    congr 1
    by_cases hkey : key = first
    · simp [hkey]
    · simp [hkey, beq_false_of_ne hkey]

end Route
end Routing
