import Mathlib.Data.List.Induction
import Routing.Proofs.Interleaving
import Routing.Proofs.KeyedLists
import Routing.Proofs.Pattern.Extension
import Routing.Router.Generator

/-! Paths that are generated: the values they are made of, and that their route accepts them if its
patterns match the values. -/
namespace Routing

open Pattern Pattern.Expr Pattern.Way

namespace Pattern

/-- The pattern matches the text from its start to its end. -/
def matchesWhole (source text : String) : Bool :=
  (compile? ("^(" ++ source ++ ")$")).any (·.isMatch text)

/-- The numbers of the groups do not decide where ways end. -/
theorem Expr.exists_ways_iff (e : Expr) (first : Nat) (c : Cursor) {rest : List Char} :
    (∃ way ∈ e.ways first c, way.2.rest = rest) ↔ ∃ way ∈ e.ways 0 c, way.2.rest = rest := by
  rw [← Nat.zero_add first, ways_shift]
  simp only [List.mem_map, exists_exists_and_eq_and, shift]

theorem Expr.exists_ways_group (e : Expr) (first : Nat) (c : Cursor) {rest : List Char} :
    (∃ way ∈ (group e).ways first c, way.2.rest = rest) ↔
      ∃ way ∈ e.ways 0 c, way.2.rest = rest := by
  rw [← e.exists_ways_iff (first + 1)]
  simp only [ways, List.mem_map, exists_exists_and_eq_and]

theorem Expr.isSome_whole? (e : Expr) (first : Nat) (text : List Char) :
    (e.whole? first text).isSome ↔ ∃ way ∈ e.ways 0 (Cursor.start text), way.2.rest = [] := by
  unfold whole?
  rw [Option.isSome_map, List.find?_isSome]
  simp only [List.isEmpty_iff]
  exact e.exists_ways_iff first _

theorem Encloses.matchesWhole_iff {source : String} (h : Encloses source) (text : String) :
    matchesWhole source text = true ↔
      ∃ way ∈ (own source).ways 0 (Cursor.start text.toList), way.2.rest = [] := by
  obtain ⟨names, hnodup, -, hadds⟩ := h
  have htext : ("^(" ++ source ++ ")$").toList = '^' :: ('(' :: source.toList ++ [')']) ++ ['$'] := by
    simp
  have hparse : Expr.parse? ("^(" ++ source ++ ")$").toList =
      some (seqAll (.look .textStart :: [group (own source)] ++ [.look .textEnd])) := by
    rw [htext, (Route.adds_anchored hadds).parse?_eq, if_pos hnodup]
  unfold matchesWhole compile?
  rw [hparse, Option.map_some, Option.any_some]
  unfold isMatch
  rw [search_anchored, Option.isSome_map, isSome_whole?]
  exact (own source).exists_ways_group 0 _

/-- Characters lead to the end of the text that they are. -/
theorem Expr.exists_ways_literal {text rest : List Char} (first : Nat) {c : Cursor}
    (h : c.rest = text ++ rest) :
    ∃ way ∈ (seqAll (text.map fun x => .chars (.single x))).ways first c, way.2.rest = rest := by
  induction text generalizing first c with
  | nil => exact ⟨([], c), List.mem_singleton_self _, h⟩
  | cons x text ih =>
    obtain ⟨⟨captures, e⟩, hway, hend⟩ := ih first (c := c.advance x (text ++ rest)) rfl
    have hstep : ([], c.advance x (text ++ rest)) ∈ (Expr.chars (.single x)).ways first c := by
      simp [ways, h]
    refine ⟨(captures, e), ?_, hend⟩
    rw [List.map_cons, ways_seqAll_cons]
    exact mem_andThen.mpr ⟨[], _, captures, hstep, hway, rfl⟩

end Pattern

namespace Route

/-- Texts that the patterns match lead from one literal to the next. -/
theorem exists_ways_segments {patterns : List (String × String)} {text : String → String}
    {segments : List Segment}
    (hlook : ∀ name, .param name ∈ segments →
      (own ((patterns.lookup name).getD "")).lookFree = true)
    (hmatch : ∀ name, .param name ∈ segments →
      ∃ way ∈ (own ((patterns.lookup name).getD "")).ways 0 (Cursor.start (text name).toList),
        way.2.rest = [])
    (first : Nat) {c : Cursor} (h : c.rest = segments.flatMap fun s => (s.fill text).toList) :
    ∃ way ∈ (seqAll (segments.flatMap (partOf patterns))).ways first c, way.2.rest = [] := by
  induction segments generalizing first c with
  | nil => exact ⟨([], c), List.mem_singleton_self _, h⟩
  | cons s segments ih =>
    rw [List.flatMap_cons] at h
    obtain ⟨⟨captures, d⟩, hhere, hrest⟩ : ∃ way ∈ (seqAll (partOf patterns s)).ways first c,
        way.2.rest = segments.flatMap fun s => (s.fill text).toList := by
      cases s with
      | literal text => exact exists_ways_literal first h
      | param name =>
        obtain ⟨way, hway, hend⟩ := hmatch name List.mem_cons_self
        have hwithin : (Cursor.start (text name).toList).Within c.pos
            (segments.flatMap fun s => (s.fill text).toList) c := ⟨(Nat.zero_add c.pos).symm, h⟩
        obtain ⟨way', hway', hend'⟩ :=
          carries_ways (hlook name List.mem_cons_self) 0 _ _ _ _ hwithin way hway
        have hrest := hend'.rest
        rw [hend, List.nil_append] at hrest
        exact (exists_ways_group _ first c).mpr ⟨way', hway', hrest⟩
    obtain ⟨⟨captures', e⟩, hway, hend⟩ := ih (fun name hname => hlook name (.tail _ hname))
      (fun name hname => hmatch name (.tail _ hname))
      (first + ((partOf patterns s).map slots).sum) hrest
    refine ⟨(captures ++ captures', e), ?_, hend⟩
    rw [List.flatMap_cons, ways_seqAll_append]
    exact mem_andThen.mpr ⟨captures, d, captures', hhere, hway, rfl⟩

def accepts (r : Route) (path : String) : Bool :=
  if r.isStatic then r.path == path else (r.captures? path).isSome

theorem accepts_static {r : Route} (hstatic : r.isStatic = true) (path : String) :
    r.accepts path = (r.path == path) := by
  unfold accepts
  rw [if_pos hstatic]

theorem accepts_dynamic {r : Route} (hdynamic : r.isStatic = false) (path : String) :
    r.accepts path = (r.values? path).isSome := by
  unfold accepts values?
  rw [hdynamic, if_neg Bool.false_ne_true, Option.isSome_map]

/-- The value that a parameter is generated with: the last that is given, or else the default. -/
def used? (r : Route) (pairs : List (String × String)) (key : String) : Option String :=
  (pairs.reverse.lookup key).or r.defaults[key]?

def filled (r : Route) (pairs : List (String × String)) : String :=
  String.join (r.segments.map (Segment.fill fun key => (r.used? pairs key).getD ""))

/-- Values for the parameters of the route and nothing else, all matched by the patterns, as are the
defaults that are used. -/
structure Fits (r : Route) (pairs : List (String × String)) : Prop where
  known : ∀ p ∈ pairs, p.1 ∈ r.parameterNames
  matched : ∀ p ∈ r.patterns, (r.used? pairs p.1).any (matchesWhole p.2) = true

instance (r : Route) (pairs : List (String × String)) : Decidable (r.Fits pairs) :=
  decidable_of_iff ((∀ p ∈ pairs, p.1 ∈ r.parameterNames) ∧
    ∀ p ∈ r.patterns, (r.used? pairs p.1).any (matchesWhole p.2) = true)
    ⟨fun h => ⟨h.1, h.2⟩, fun h => ⟨h.1, h.2⟩⟩

theorem WellFormed.mem_parameterNames {r : Route} (hr : r.WellFormed) {name : String}
    (h : .param name ∈ r.segments) : name ∈ r.parameterNames := by
  rw [← hr.names]
  exact List.mem_filterMap.mpr ⟨_, h, rfl⟩

theorem Fits.isSome_used? {r : Route} {pairs : List (String × String)} (h : r.Fits pairs) :
    ∀ key ∈ r.parameterNames, (r.used? pairs key).isSome := by
  intro key hkey
  obtain ⟨p, hp, rfl⟩ := List.mem_map.mp hkey
  have hmatched := h.matched p hp
  cases hused : r.used? pairs p.1 with
  | none =>
    rw [hused] at hmatched
    cases hmatched
  | some text => rfl

/-- The path of a static route is the same with all values. -/
theorem WellFormed.filled_of_isStatic {r : Route} (hr : r.WellFormed) (hstatic : r.isStatic = true)
    (text : String → String) : String.join (r.segments.map (Segment.fill text)) = r.path := by
  have hnames := hr.names
  rw [(isStatic_iff r).mp hstatic, List.filterMap_eq_nil_iff] at hnames
  unfold path
  congr 1
  refine List.map_congr_left fun s hs => ?_
  cases s with
  | literal text => rfl
  | param name => cases hnames _ hs

/-- A route accepts its path with values that fit, unless a pattern asks for more than the value. -/
theorem Fits.accepts_filled {r : Route} {pairs : List (String × String)} (h : r.Fits pairs)
    (hr : r.WellFormed) (henclosed : r.Enclosed)
    (hlook : ∀ p ∈ r.patterns, (own p.2).lookFree = true) :
    r.accepts (r.filled pairs) = true := by
  unfold accepts
  split_ifs with hstatic
  · rw [beq_iff_eq]
    exact (hr.filled_of_isStatic hstatic _).symm
  · have hsearch : r.Searchable := ⟨hr, by simpa using hstatic, henclosed⟩
    rw [hsearch.captures?_eq, Option.isSome_map]
    unfold wholeMatch?
    rw [isSome_whole?]
    have hpath : (r.filled pairs).toList = r.segments.flatMap fun s =>
        (s.fill fun key => (r.used? pairs key).getD "").toList := by
      unfold filled
      rw [String.toList_join, List.flatMap_map]
    refine exists_ways_segments (fun name hname => ?_) (fun name hname => ?_) 0 hpath
    · obtain ⟨pattern, hp⟩ := exists_pattern hr.names hname
      rw [hr.lookup hp]
      exact hlook _ hp
    · obtain ⟨pattern, hp⟩ := exists_pattern hr.names hname
      obtain ⟨value, hused, hmatch⟩ := (Option.any_eq_true _ _).mp (h.matched _ hp)
      rw [hr.lookup hp, hused]
      exact ((henclosed _ hp).matchesWhole_iff value).mp hmatch

end Route

namespace Router

theorem supplied_concat (pairs : List (String × String)) (pair : String × String) :
    supplied (pairs ++ [pair]) = Keyed.put (supplied pairs) pair.1 pair.2 := by
  unfold supplied
  rw [List.foldl_append]
  rfl

/-- The value that is supplied last is the one that counts. -/
theorem lookup_supplied (pairs : List (String × String)) (key : String) :
    (supplied pairs).lookup key = pairs.reverse.lookup key := by
  induction pairs using List.reverseRecOn with
  | nil => rfl
  | append_singleton pairs pair ih =>
    rw [supplied_concat, Keyed.lookup_put, ih, List.reverse_append, List.reverse_singleton,
      List.singleton_append, List.lookup_cons]
    by_cases hkey : key = pair.1
    · simp [hkey]
    · rw [if_neg hkey, beq_false_of_ne hkey]

theorem map_fst_supplied (pairs : List (String × String)) :
    (supplied pairs).map Prod.fst = (pairs.map Prod.fst).eraseDups := by
  induction pairs using List.reverseRecOn with
  | nil => rfl
  | append_singleton pairs pair ih =>
    rw [supplied_concat, Keyed.keys_put, ih, List.map_append, List.eraseDups_append]
    by_cases hmem : pair.1 ∈ pairs.map Prod.fst
    · rw [if_pos (List.mem_eraseDups.mpr hmem)]
      simp [List.removeAll, hmem]
    · rw [if_neg (List.mem_eraseDups.not.mpr hmem)]
      simp [List.removeAll, hmem, List.eraseDups_cons]

theorem nodup_supplied (pairs : List (String × String)) :
    ((supplied pairs).map Prod.fst).Nodup := by
  induction pairs using List.reverseRecOn with
  | nil => exact List.nodup_nil
  | append_singleton pairs pair ih =>
    rw [supplied_concat]
    exact Keyed.nodup_put ih pair.1 pair.2

theorem supplied_eq (pairs : List (String × String)) :
    supplied pairs = (pairs.map Prod.fst).eraseDups.map fun key =>
      (key, (pairs.reverse.lookup key).getD "") := by
  rw [← map_fst_supplied, List.map_map]
  refine (List.map_id (supplied pairs)).symm.trans (List.map_congr_left fun pair hpair => ?_)
  have hlookup := Keyed.lookup_of_mem (nodup_supplied pairs) hpair
  rw [lookup_supplied] at hlookup
  simp [hlookup]

end Router

namespace Route

/-- The given pairs that are no parameters: each key where it stands first, with the value that stands
last. -/
def extras (r : Route) (pairs : List (String × String)) : List (String × String) :=
  ((pairs.map Prod.fst).eraseDups.filter fun key => !r.parameterNames.contains key).map fun key =>
    (key, (pairs.reverse.lookup key).getD "")

def missing (r : Route) (pairs : List (String × String)) : List String :=
  r.parameterNames.filter fun key => (r.used? pairs key).isNone

theorem extras_eq_filter (r : Route) (pairs : List (String × String)) :
    ((Router.supplied pairs).filter fun (key, _) => !r.parameterNames.contains key) =
      r.extras pairs := by
  rw [Router.supplied_eq, List.filter_map]
  rfl

theorem missing_eq_nil {r : Route} {pairs : List (String × String)} :
    r.missing pairs = [] ↔ ∀ key ∈ r.parameterNames, (r.used? pairs key).isSome := by
  unfold missing
  rw [List.filter_eq_nil_iff]
  simp only [Option.isNone_iff_eq_none, Option.isSome_iff_ne_none, ne_eq]

theorem WellFormed.interpolate_used {r : Route} (hr : r.WellFormed) {pairs : List (String × String)}
    (h : ∀ key ∈ r.parameterNames, (r.used? pairs key).isSome) :
    r.interpolate (r.used? pairs) = r.filled pairs := by
  unfold interpolate filled
  congr 1
  refine List.map_congr_left fun s hs => ?_
  cases s with
  | literal text => rfl
  | param key =>
    obtain ⟨text, htext⟩ := Option.isSome_iff_exists.mp (h key (hr.mem_parameterNames hs))
    simp [Segment.fill, htext]

end Route

namespace Router

variable {r : Router} {name : String} {route : Route} {pairs : List (String × String)}

theorem generate_eq (hget : r.getRoute name = .ok route) (hwell : route.WellFormed) (short : Bool)
    (pairs : List (String × String)) :
    r.generate short name pairs =
      if route.missing pairs = [] then
        .ok (assemble short (route.filled pairs) (route.extras pairs))
      else .error (.missingParameters name (route.missing pairs)) := by
  have hvalue (key : String) :
      ((supplied pairs).lookup key).or route.defaults[key]? = route.used? pairs key := by
    rw [lookup_supplied]
    rfl
  have hmissing : (route.parameterNames.filter fun key => (route.used? pairs key).isNone) =
      route.missing pairs := rfl
  unfold generate
  rw [hget]
  simp only [bind, Except.bind, hvalue, route.extras_eq_filter, hmissing]
  by_cases hnone : route.missing pairs = []
  · have hpath := hwell.interpolate_used (Route.missing_eq_nil.mp hnone)
    simp [hnone, hpath, pure, Except.pure]
  · simp [hnone, throw, throwThe, MonadExceptOf.throw]

/-- A value for every parameter is all that is needed, and values for nothing else are all that is
used. -/
theorem generate_eq_filled (hget : r.getRoute name = .ok route) (hwell : route.WellFormed)
    (hknown : ∀ p ∈ pairs, p.1 ∈ route.parameterNames)
    (hused : ∀ key ∈ route.parameterNames, (route.used? pairs key).isSome) :
    r.generate true name pairs = .ok (route.filled pairs) := by
  have hextras : route.extras pairs = [] := by
    unfold Route.extras
    rw [List.map_eq_nil_iff, List.filter_eq_nil_iff]
    intro key hkey
    obtain ⟨p, hp, rfl⟩ := List.mem_map.mp (List.mem_eraseDups.mp hkey)
    simpa using hknown p hp
  rw [generate_eq hget hwell, if_pos (Route.missing_eq_nil.mpr hused), hextras]
  rfl

end Router
end Routing
