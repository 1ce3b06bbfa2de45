import Routing.Proofs.KeyedLists
import Routing.Route

/-! The fragments of a template, which are the parameters with their patterns as it writes them down, and
what reading them accepts: distinct names and patterns that are valid, with the first fault as the error. -/
namespace Routing.Route

/-- The parameter that a piece stands for. A pattern that is not written down is the default one. -/
def fragment? (defaultPattern : String) : Piece → Option (String × String)
  | .literal _ => none
  | .placeholder p =>
    some (String.ofList p.name, if p.pattern.isEmpty then defaultPattern else String.ofList p.pattern)

def fragments (defaultPattern template : String) : List (String × String) :=
  (Piece.ofTemplate template).filterMap (fragment? defaultPattern)

structure Sound (patterns : List (String × String)) : Prop where
  nodup : (patterns.map Prod.fst).Nodup
  valid : ∀ p ∈ patterns, validatePattern p.1 p.2 = .ok ()

/-- A further parameter may not repeat a name, and its pattern must be valid by itself. -/
def check (template : String) (before : List (String × String)) (fragment : String × String) :
    Except Error Unit :=
  if fragment.1 ∈ before.map Prod.fst then .error (.duplicatePlaceholder fragment.1 template)
  else validatePattern fragment.1 fragment.2

theorem sound_nil : Sound [] := ⟨List.nodup_nil, by simp⟩

theorem Sound.left {before after : List (String × String)} (h : Sound (before ++ after)) :
    Sound before := by
  refine ⟨?_, fun p hp => h.valid p (List.mem_append_left _ hp)⟩
  have hnodup := h.nodup
  rw [List.map_append] at hnodup
  exact hnodup.of_append_left

theorem sound_concat {before : List (String × String)} {fragment : String × String}
    (template : String) :
    Sound (before ++ [fragment]) ↔ Sound before ∧ check template before fragment = .ok () := by
  have hnames : ((before ++ [fragment]).map Prod.fst).Nodup ↔
      (before.map Prod.fst).Nodup ∧ fragment.1 ∉ before.map Prod.fst := by
    rw [List.map_append, List.map_singleton, List.nodup_append_comm, List.singleton_append,
      List.nodup_cons, and_comm]
  have hvalid : (∀ p ∈ before ++ [fragment], validatePattern p.1 p.2 = .ok ()) ↔
      (∀ p ∈ before, validatePattern p.1 p.2 = .ok ()) ∧
        validatePattern fragment.1 fragment.2 = .ok () := by
    rw [List.forall_mem_append, List.forall_mem_singleton]
  unfold check
  constructor
  · intro h
    obtain ⟨hnodup, hfresh⟩ := hnames.mp h.nodup
    obtain ⟨hbefore, hhere⟩ := hvalid.mp h.valid
    refine ⟨⟨hnodup, hbefore⟩, ?_⟩
    rw [if_neg hfresh]
    exact hhere
  · rintro ⟨h, hcheck⟩
    split_ifs at hcheck with hrepeated
    exact ⟨hnames.mpr ⟨h.nodup, hrepeated⟩, hvalid.mpr ⟨h.valid, hcheck⟩⟩

theorem not_sound_of_check {template : String} {good rest : List (String × String)}
    {bad : String × String} {e : Error}
    (h : check template good bad = .error e) : ¬Sound (good ++ bad :: rest) := by
  intro hsound
  rw [List.append_cons] at hsound
  have hok := ((sound_concat template).mp hsound.left).2
  rw [h] at hok
  cases hok

/-- There is only one first fault. -/
theorem check_unique {template : String} {good good' rest rest' : List (String × String)}
    {bad bad' : String × String} {e e' : Error} (h : good ++ bad :: rest = good' ++ bad' :: rest')
    (hgood : Sound good) (hgood' : Sound good') (hbad : check template good bad = .error e)
    (hbad' : check template good' bad' = .error e') : e = e' := by
  rcases List.append_eq_append_iff.mp h with ⟨between, rfl, htail⟩ | ⟨between, rfl, htail⟩
  · cases between with
    | nil =>
      cases htail
      rw [List.append_nil, hbad] at hbad'
      exact Except.error.inj hbad'
    | cons first between =>
      cases htail
      exact absurd hgood' (not_sound_of_check hbad)
  · cases between with
    | nil =>
      cases htail
      rw [List.append_nil, hbad'] at hbad
      exact (Except.error.inj hbad).symm
    | cons first between =>
      cases htail
      exact absurd hgood (not_sound_of_check hbad')

section Parameters

variable (defaultPattern template : String) {before : List (String × String)} (pieces : List Piece)

/-- One placeholder is checked, and then the others after it. -/
theorem parameters_cons (p : Placeholder) {fragment : String × String}
    (h : fragment? defaultPattern (.placeholder p) = some fragment) :
    parameters defaultPattern template before (.placeholder p :: pieces) =
      (check template before fragment).bind fun _ =>
        parameters defaultPattern template (before ++ [fragment]) pieces := by
  cases h
  simp only [parameters, check, Keyed.lookup_isSome_iff, bind]
  split_ifs <;> rfl

/-- Either all fragments are sound and are the parameters, or the first fault among them is the error. -/
theorem parameters_cases (hbefore : Sound before) :
    (Sound (before ++ pieces.filterMap (fragment? defaultPattern)) ∧
      parameters defaultPattern template before pieces =
        .ok (before ++ pieces.filterMap (fragment? defaultPattern))) ∨
    ∃ good bad rest e, pieces.filterMap (fragment? defaultPattern) = good ++ bad :: rest ∧
      Sound (before ++ good) ∧ check template (before ++ good) bad = .error e ∧
      parameters defaultPattern template before pieces = .error e := by
  induction pieces generalizing before with
  | nil =>
    left
    rw [List.filterMap_nil, List.append_nil]
    exact ⟨hbefore, rfl⟩
  | cons piece pieces ih =>
    cases hpiece : fragment? defaultPattern piece with
    | none =>
      cases piece with
      | literal text => exact ih hbefore
      | placeholder p => cases hpiece
    | some fragment =>
      cases piece with
      | literal text => cases hpiece
      | placeholder p =>
        rw [parameters_cons defaultPattern template pieces p hpiece, List.filterMap_cons_some hpiece]
        cases hcheck : check template before fragment with
        | error e =>
          refine .inr ⟨[], fragment, _, e, rfl, ?_, ?_, rfl⟩ <;> rwa [List.append_nil]
        | ok =>
          have hmore := (sound_concat template).mpr ⟨hbefore, hcheck⟩
          rcases ih hmore with ⟨hsound, hok⟩ | ⟨good, bad, rest, e, hsplit, hsound, hbad, herror⟩
          · left
            rw [List.append_cons]
            exact ⟨hsound, hok⟩
          · refine .inr ⟨fragment :: good, bad, rest, e, by rw [hsplit]; rfl, ?_, ?_, herror⟩ <;>
              rwa [List.append_cons]

theorem parameters_eq_ok (patterns : List (String × String)) :
    parameters defaultPattern template [] pieces = .ok patterns ↔
      patterns = pieces.filterMap (fragment? defaultPattern) ∧ Sound patterns := by
  rcases parameters_cases defaultPattern template pieces sound_nil with
    ⟨hsound, hok⟩ | ⟨good, bad, rest, e, hsplit, hsound, hbad, herror⟩
  · rw [hok, List.nil_append, Except.ok.injEq]
    constructor
    · rintro rfl
      exact ⟨rfl, hsound⟩
    · exact fun h => h.1.symm
  · rw [herror, hsplit]
    constructor
    · intro h
      cases h
    · rintro ⟨rfl, h⟩
      exact absurd h (not_sound_of_check hbad)

theorem parameters_eq_error (e : Error) :
    parameters defaultPattern template [] pieces = .error e ↔
      ∃ good bad rest, pieces.filterMap (fragment? defaultPattern) = good ++ bad :: rest ∧
        Sound good ∧ check template good bad = .error e := by
  rcases parameters_cases defaultPattern template pieces sound_nil with
    ⟨hsound, hok⟩ | ⟨good, bad, rest, e', hsplit, hsound, hbad, herror⟩
  · rw [hok]
    constructor
    · intro h
      cases h
    · rintro ⟨good, bad, rest, hsplit, -, hbad⟩
      rw [List.nil_append, hsplit] at hsound
      exact absurd hsound (not_sound_of_check hbad)
  · rw [herror, Except.error.injEq]
    constructor
    · rintro rfl
      exact ⟨good, bad, rest, hsplit, hsound, hbad⟩
    · rintro ⟨good', bad', rest', hsplit', hsound', hbad'⟩
      exact check_unique (hsplit.symm.trans hsplit') hsound hsound' hbad hbad'

end Parameters

section Parse

variable {defaultPattern template : String} {method : Option MethodMask}

theorem parse_eq_ok {r : Route} :
    parse defaultPattern template method = .ok r ↔
      Sound (fragments defaultPattern template) ∧
        ∃ regex, compileRegex ((Piece.ofTemplate template).map segment)
            (fragments defaultPattern template) = .ok regex ∧
          r = { template, segments := (Piece.ofTemplate template).map segment, method
                patterns := fragments defaultPattern template, regex } := by
  have hok := parameters_eq_ok defaultPattern template (Piece.ofTemplate template)
  simp only [parse, bind, Except.bind]
  cases hp : parameters defaultPattern template [] (Piece.ofTemplate template) with
  | error e =>
    have hfault : ¬Sound (fragments defaultPattern template) := fun hsound => by
      rw [(hok _).mpr ⟨rfl, hsound⟩] at hp
      cases hp
    simp [hfault]
  | ok patterns =>
    obtain ⟨rfl, hsound⟩ := (hok patterns).mp hp
    cases hc : compileRegex ((Piece.ofTemplate template).map segment)
        ((Piece.ofTemplate template).filterMap (fragment? defaultPattern)) with
    | error e => simp [fragments, hc]
    | ok regex => simp [fragments, hc, hsound, pure, Except.pure, eq_comm]

/-- Reading a template fails with the first fault of its fragments, or else with the whole. -/
theorem parse_eq_error {e : Error} :
    parse defaultPattern template method = .error e ↔
      (∃ good bad rest, fragments defaultPattern template = good ++ bad :: rest ∧ Sound good ∧
        check template good bad = .error e) ∨
      Sound (fragments defaultPattern template) ∧
        compileRegex ((Piece.ofTemplate template).map segment) (fragments defaultPattern template) =
          .error e := by
  have hok := parameters_eq_ok defaultPattern template (Piece.ofTemplate template)
  have herror := parameters_eq_error defaultPattern template (Piece.ofTemplate template) e
  simp only [parse, bind, Except.bind]
  cases hp : parameters defaultPattern template [] (Piece.ofTemplate template) with
  | error e' =>
    have hfault : ¬Sound (fragments defaultPattern template) := fun hsound => by
      rw [(hok _).mpr ⟨rfl, hsound⟩] at hp
      cases hp
    rw [hp, Except.error.injEq] at herror
    rw [or_iff_left fun h => hfault h.1, Except.error.injEq]
    exact herror
  | ok patterns =>
    obtain ⟨rfl, hsound⟩ := (hok patterns).mp hp
    have hgood : ¬∃ good bad rest, fragments defaultPattern template = good ++ bad :: rest ∧
        Sound good ∧ check template good bad = .error e := by
      intro hfault
      rw [herror.mpr hfault] at hp
      cases hp
    rw [or_iff_right hgood]
    cases hc : compileRegex ((Piece.ofTemplate template).map segment)
        ((Piece.ofTemplate template).filterMap (fragment? defaultPattern)) with
    | error e' => simp [fragments, hc, hsound]
    | ok regex => simp [fragments, hc, pure, Except.pure]

end Parse

end Routing.Route
