import Routing.Proofs.Pattern.Fragment
import Routing.Proofs.RouteChanges
import Routing.Router.Chunk

/-! The expressions that routes and chunks of routes are matched with. -/
namespace Routing

open Pattern Pattern.Reader

namespace Route

/-- What a segment becomes in the regular expression. -/
def partOf (patterns : List (String × String)) : Segment → List Expr
  | .literal text => text.toList.map fun c => .chars (.single c)
  | .param name => [.group (own ((patterns.lookup name).getD ""))]

/-- The route as a sequence of expressions. -/
def parts (r : Route) : List Expr := r.segments.flatMap (partOf r.patterns)

/-- How many group numbers the patterns of the parameters take by themselves. -/
def hidden (r : Route) : Nat := (r.patterns.map fun p => (own p.2).slots).sum

/-- Every pattern is the same group in parentheses, wherever they stand. -/
def Enclosed (r : Route) : Prop := ∀ p ∈ r.patterns, Encloses p.2

/-- A route that can be searched for by its regular expression. -/
structure Searchable (r : Route) : Prop where
  wellFormed : r.WellFormed
  dynamic : r.isStatic = false
  enclosed : r.Enclosed

def textOf (patterns : List (String × String)) : Segment → List Char
  | .literal text => Escape.quote text.toList
  | .param name => '(' :: ((patterns.lookup name).getD "").toList ++ [')']

theorem toList_spliced (segments : List Segment) (patterns : List (String × String)) :
    (spliced segments patterns).toList = segments.flatMap (textOf patterns) := by
  unfold spliced
  rw [String.toList_join, List.flatMap_map]
  refine List.flatMap_congr fun s _ => ?_
  cases s <;> simp [textOf, quote]

theorem hidden_eq_zero {r : Route} : r.hidden = 0 ↔ ∀ p ∈ r.patterns, (own p.2).slots = 0 := by
  unfold hidden
  rw [List.sum_eq_zero_iff_forall_eq_nat, List.forall_mem_map]

theorem WellFormed.lookup {r : Route} (hr : r.WellFormed) {p : String × String} (hp : p ∈ r.patterns) :
    r.patterns.lookup p.1 = some p.2 :=
  Keyed.lookup_of_mem hr.nodup hp

/-- Valid patterns that skip no blanks and comments are the same groups in parentheses. -/
theorem Sound.encloses {patterns : List (String × String)} (h : Sound patterns)
    (hquiet : ∀ p ∈ patterns, Quiet p.2) : ∀ p ∈ patterns, Encloses p.2 := by
  intro p hp
  obtain ⟨compiled, hcompiled, _⟩ := validatePattern_ok (h.valid p hp)
  exact encloses_of_quiet hcompiled (hquiet p hp)

/-- The names of the groups in the patterns, the last one first. -/
def groupNames (patterns : List (String × String)) : List (List Char) :=
  patterns.reverse.flatMap fun p => Pattern.groupNames p.2

theorem groupNames_eq_nil {patterns : List (String × String)} (h : Sound patterns)
    (hslots : ∀ p ∈ patterns, (own p.2).slots = 0) : groupNames patterns = [] := by
  unfold groupNames
  rw [List.flatMap_eq_nil_iff]
  intro p hp
  rw [List.mem_reverse] at hp
  obtain ⟨compiled, hcompiled, _⟩ := validatePattern_ok (h.valid p hp)
  exact Pattern.groupNames_eq_nil hcompiled (hslots p hp)

/-- Patterns that can stand in the segments: sound ones, one for each parameter in their order, and each
the same group in parentheses wherever they stand. -/
structure Spliceable (segments : List Segment) (patterns : List (String × String)) : Prop where
  names : segments.filterMap Segment.param? = patterns.map Prod.fst
  sound : Sound patterns
  enclosed : ∀ p ∈ patterns, Encloses p.2

theorem WellFormed.spliceable {r : Route} (hr : r.WellFormed) (henc : r.Enclosed) :
    Spliceable r.segments r.patterns :=
  ⟨hr.names, hr.sound, henc⟩

section Spliceable

variable {segments : List Segment} {patterns : List (String × String)}

theorem exists_pattern (h : segments.filterMap Segment.param? = patterns.map Prod.fst) {name : String}
    (hname : .param name ∈ segments) : ∃ pattern, (name, pattern) ∈ patterns := by
  have hparam : name ∈ segments.filterMap Segment.param? :=
    List.mem_filterMap.mpr ⟨_, hname, rfl⟩
  rw [h] at hparam
  obtain ⟨p, hp, rfl⟩ := List.mem_map.mp hparam
  exact ⟨p.2, hp⟩

def namesOf (patterns : List (String × String)) : Segment → List (List Char)
  | .literal _ => []
  | .param name => Pattern.groupNames ((patterns.lookup name).getD "")

theorem Spliceable.flatMap_namesOf (h : Spliceable segments patterns) :
    segments.reverse.flatMap (namesOf patterns) = groupNames patterns := by
  have hparams (l : List Segment) : l.flatMap (namesOf patterns) =
      (l.filterMap Segment.param?).flatMap fun name =>
        Pattern.groupNames ((patterns.lookup name).getD "") := by
    induction l with
    | nil => rfl
    | cons s l ih =>
      cases s with
      | literal text => exact ih
      | param name =>
        rw [List.flatMap_cons, ih]
        rfl
  unfold groupNames
  rw [hparams, List.filterMap_reverse, h.names, ← List.map_reverse, List.flatMap_map]
  refine List.flatMap_congr fun p hp => ?_
  rw [Keyed.lookup_of_mem h.sound.nodup (List.mem_reverse.mp hp)]
  rfl

/-- The text between the anchors adds the parts of the segments. -/
theorem Spliceable.adds (h : Spliceable segments patterns) :
    Adds (spliced segments patterns).toList (groupNames patterns)
      (segments.flatMap (partOf patterns)) := by
  rw [toList_spliced, ← h.flatMap_namesOf]
  refine Adds.flatMap fun s hs => ?_
  cases s with
  | literal text => exact adds_quote text.toList
  | param name =>
    obtain ⟨pattern, hp⟩ := exists_pattern h.names hs
    obtain ⟨compiled, hcompiled, _⟩ := validatePattern_ok (h.sound.valid _ hp)
    have hlookup : patterns.lookup name = some pattern := Keyed.lookup_of_mem h.sound.nodup hp
    simpa [textOf, partOf, namesOf, hlookup] using (h.enclosed _ hp).adds hcompiled

theorem adds_anchored {s : List Char} {names : List (List Char)} {es : List Expr}
    (h : Adds s names es) :
    Adds ('^' :: s ++ ['$']) names (.look .textStart :: es ++ [.look .textEnd]) := by
  have hall := (adds_textStart.append h).append adds_textEnd
  simpa using hall

/-- Patterns that can stand in the segments compile there exactly if no two groups have the same name. -/
theorem Spliceable.compileRegex_eq (h : Spliceable segments patterns) :
    compileRegex segments patterns =
      if patterns.isEmpty then .ok none
      else if (groupNames patterns).Nodup then
        .ok (some ⟨spliced segments patterns, ⟨"^" ++ spliced segments patterns ++ "$",
          .seqAll (.look .textStart :: segments.flatMap (partOf patterns) ++ [.look .textEnd])⟩⟩)
      else .error (.invalidPattern ("^" ++ spliced segments patterns ++ "$")) := by
  have htext : ("^" ++ spliced segments patterns ++ "$").toList =
      '^' :: (spliced segments patterns).toList ++ ['$'] := by simp
  unfold compileRegex compile?
  dsimp only
  rw [htext, (adds_anchored h.adds).parse?_eq]
  split_ifs <;> rfl

theorem Spliceable.compileRegex_eq_error (h : Spliceable segments patterns) {e : Error} :
    compileRegex segments patterns = .error e ↔
      ¬(groupNames patterns).Nodup ∧
        e = .invalidPattern ("^" ++ spliced segments patterns ++ "$") := by
  rw [h.compileRegex_eq]
  split_ifs with hempty hnodup
  · rw [List.isEmpty_iff.mp hempty]
    simp [groupNames]
  · simp [hnodup]
  · simp [hnodup, eq_comm]

theorem Spliceable.exists_regex_iff (h : Spliceable segments patterns) :
    (∃ regex, compileRegex segments patterns = .ok regex) ↔ (groupNames patterns).Nodup := by
  simp only [exists_ok_iff, ne_eq, h.compileRegex_eq_error]
  refine ⟨fun hnever => ?_, fun hnodup e htwice => htwice.1 hnodup⟩
  by_contra htwice
  exact hnever _ ⟨htwice, rfl⟩

end Spliceable

def anchoredExpr (r : Route) : Expr :=
  .seqAll (.look .textStart :: r.parts ++ [.look .textEnd])

/-- The regular expression of a route is made of its parts. -/
theorem Searchable.regex_expr {r : Route} (hr : r.Searchable) :
    ∃ regex, r.regex = some regex ∧ regex.source = spliced r.segments r.patterns ∧
      regex.anchored.expr = r.anchoredExpr := by
  have hregex := hr.wellFormed.regex
  have hdynamic : r.patterns.isEmpty = false := hr.dynamic
  rw [(hr.wellFormed.spliceable hr.enclosed).compileRegex_eq, hdynamic,
    if_neg Bool.false_ne_true] at hregex
  split_ifs at hregex with hnodup
  exact ⟨_, (Except.ok.inj hregex).symm, rfl, rfl⟩

end Route

namespace Chunk

def alternativeExpr (width : Nat) (r : Route) : Expr :=
  .seqAll (.seqAll r.parts :: List.replicate (width - r.parameterCount) (.group .empty))

/-- The expression that matches the paths of all routes. -/
def combinedExpr (members : List (Nat × Route)) : Expr :=
  .seqAll [.look .textStart,
    .altAll (members.map fun member => alternativeExpr (widthOf members) member.2), .look .textEnd]

theorem adds_emptyGroup : Adds ['(', ')'] [] [.group .empty] := by
  rw [← own_nil]
  exact adds_of_quiet "" (by decide) (by decide) (by decide)

theorem adds_emptyGroups (n : Nat) :
    Adds (List.replicate n ['(', ')']).flatten [] (List.replicate n (.group .empty)) := by
  induction n with
  | zero => exact .nil
  | succ n ih => exact adds_emptyGroup.append ih

/-- The names of the groups in the patterns of the routes, the last one first. -/
def groupNames (members : List (Nat × Route)) : List (List Char) :=
  members.reverse.flatMap fun member => Route.groupNames member.2.patterns

theorem adds_alternative {r : Route} (hr : r.Searchable) (width : Nat) :
    Adds (alternative width r).toList (Route.groupNames r.patterns)
      (.seqAll r.parts :: List.replicate (width - r.parameterCount) (.group .empty)) := by
  obtain ⟨regex, hregex, hsource, _⟩ := hr.regex_expr
  have hadds := (hr.wellFormed.spliceable hr.enclosed).adds
  have hroute := adds_choice (l := [()]) (List.cons_ne_nil _ _) fun _ _ => hadds
  have htext : (alternative width r).toList =
      ['(', '?', ':'] ++ ['|'].intercalate ([()].map fun _ =>
        (Route.spliced r.segments r.patterns).toList) ++ [')'] ++
        (List.replicate (width - r.parameterCount) ['(', ')']).flatten := by
    simp [alternative, hregex, hsource, List.intercalate, List.flatMap]
  have hall := hroute.append (adds_emptyGroups (width - r.parameterCount))
  rw [List.reverse_singleton, List.flatMap_singleton, List.nil_append] at hall
  rw [htext]
  exact hall

variable {members : List (Nat × Route)}

theorem adds_combined (hne : members ≠ []) (hsearch : ∀ member ∈ members, member.2.Searchable) :
    Adds (combined members).toList (groupNames members) [.look .textStart,
      .altAll (members.map fun member => alternativeExpr (widthOf members) member.2),
      .look .textEnd] := by
  have hall := Route.adds_anchored (adds_choice hne fun member hm =>
    adds_alternative (hsearch member hm) (widthOf members))
  have htext : (combined members).toList = '^' :: (['(', '?', ':'] ++ ['|'].intercalate
      (members.map fun member => (alternative (widthOf members) member.2).toList) ++ [')']) ++
      ['$'] := by
    simp [combined, String.toList_intercalate, List.map_map, Function.comp_def]
  rw [htext]
  exact hall

theorem compile_eq_ok {c : Chunk} (h : compile members = .ok c) :
    ∃ p, compile? (combined members) = some p ∧ c = {
      pattern := p
      width := widthOf members
      entries := members.map fun (position, r) => (position, r.parameterCount)
      boundaries := members.zipIdx.map fun (_, i) => ((i + 1) * widthOf members, i) } := by
  unfold compile at h
  dsimp only at h
  split at h
  · cases h
  · next p hp => exact ⟨p, hp, (Except.ok.inj h).symm⟩

/-- A chunk is made of the parts of its routes. -/
theorem compile_expr (hne : members ≠ []) (hsearch : ∀ member ∈ members, member.2.Searchable)
    {c : Chunk} (h : compile members = .ok c) : c.pattern.expr = combinedExpr members := by
  obtain ⟨p, hp, rfl⟩ := compile_eq_ok h
  obtain ⟨e, he, rfl⟩ := Option.map_eq_some_iff.mp hp
  exact ((adds_combined hne hsearch).parse?_eq_some.mp he).2

/-- Routes go into one chunk exactly if no two groups in their patterns have the same name. -/
theorem exists_compile_iff (hne : members ≠ [])
    (hsearch : ∀ member ∈ members, member.2.Searchable) :
    (∃ c, compile members = .ok c) ↔ (groupNames members).Nodup := by
  unfold compile compile?
  rw [(adds_combined hne hsearch).parse?_eq]
  split_ifs with hnodup <;> simp [hnodup]

theorem compile_eq_error {e : Error} (h : compile members = .error e) :
    e = .invalidPattern (combined members) := by
  unfold compile at h
  dsimp only at h
  split at h
  · exact (Except.error.inj h).symm
  · cases h

theorem groupNames_eq_nil (hsearch : ∀ member ∈ members, member.2.Searchable)
    (hhidden : ∀ member ∈ members, member.2.hidden = 0) : groupNames members = [] := by
  unfold groupNames
  rw [List.flatMap_eq_nil_iff]
  intro member hm
  rw [List.mem_reverse] at hm
  exact Route.groupNames_eq_nil (hsearch member hm).wellFormed.sound
    (Route.hidden_eq_zero.mp (hhidden member hm))

/-- Routes without groups of their own always go into one chunk. -/
theorem compile_of_hidden (hne : members ≠ [])
    (hsearch : ∀ member ∈ members, member.2.Searchable)
    (hhidden : ∀ member ∈ members, member.2.hidden = 0) : ∃ c, compile members = .ok c := by
  rw [exists_compile_iff hne hsearch, groupNames_eq_nil hsearch hhidden]
  exact List.nodup_nil

end Chunk
end Routing
