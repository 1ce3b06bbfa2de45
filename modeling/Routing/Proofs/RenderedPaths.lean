import Mathlib.Data.List.Chain
import Routing.Proofs.ClosingBraces
import Routing.Proofs.Compilation
import Routing.Proofs.PathSegment
import Routing.Proofs.TemplateParts

/-! Reading the path of a route as a template again. The path shows each placeholder without its pattern,
and that pattern may have been what kept the literal text before it from beginning a placeholder. -/
namespace Routing

namespace Part

open Placeholder

/-- The part as the path shows it. -/
def shown : Part → Part
  | literal text => literal text
  | placeholder _ p => placeholder ('{' :: p.name ++ ['}']) ⟨p.name, []⟩

/-- The placeholders have source texts that are placeholders. -/
def Spelled (parts : List Part) : Prop := ∀ text p, .placeholder text p ∈ parts → Spells text p

/-- No placeholder begins inside a literal part. -/
def Free (parts : List Part) : Prop :=
  ∀ before text after, parts = before ++ .literal text :: after →
    ∀ head tail, text = head ++ tail → tail ≠ [] → ¬Begins (tail ++ after.flatMap source)

theorem begins_iff (c : Char) (s : List Char) : Begins (c :: s) ↔ c = '{' ∧ (read? s).isSome = true := by
  constructor
  · rintro ⟨text, p, rest, hspells, htext⟩
    obtain ⟨more, rfl, hread⟩ := read?_of_spells hspells rest
    obtain ⟨rfl, rfl⟩ : c = '{' ∧ s = more ++ rest := List.cons.inj htext
    rw [hread]
    exact ⟨rfl, rfl⟩
  · rintro ⟨rfl, hsome⟩
    obtain ⟨⟨p, rest⟩, hread⟩ := Option.isSome_iff_exists.mp hsome
    obtain ⟨more, hspells, rfl⟩ := spells_of_read? hread
    exact ⟨_, p, rest, hspells, rfl⟩

/-- A literal part of a list with one more character is one of the list, or the character begins it. -/
theorem split_addChar {c : Char} {parts before after : List Part} {text : List Char}
    (h : addChar c parts = before ++ .literal text :: after) :
    (∃ before', parts = before' ++ .literal text :: after) ∨
      text = [c] ∧ parts = after ∨ ∃ tail, text = c :: tail ∧ parts = .literal tail :: after := by
  cases before with
  | nil =>
    cases parts with
    | nil =>
      cases h
      exact .inr (.inl ⟨rfl, rfl⟩)
    | cons part parts =>
      cases part with
      | literal tail =>
        cases h
        exact .inr (.inr ⟨tail, rfl, rfl⟩)
      | placeholder other p =>
        cases h
        exact .inr (.inl ⟨rfl, rfl⟩)
  | cons first before =>
    left
    cases parts with
    | nil => exact absurd (List.cons.inj h).2 (by simp)
    | cons part parts =>
      cases part with
      | literal tail => exact ⟨.literal tail :: before, congrArg _ (List.cons.inj h).2⟩
      | placeholder other p => exact ⟨before, (List.cons.inj h).2⟩

theorem Cut.free {s : List Char} {parts : List Part} (h : Cut s parts) : Free parts := by
  induction h with
  | nil => exact fun before text after hsplit => absurd hsplit (by simp)
  | @placeholder text rest p parts first more ih =>
    intro before other after hsplit
    cases before with
    | nil => cases hsplit
    | cons part before => exact ih before other after (List.cons.inj hsplit).2
  | @literal c rest parts first more ih =>
    intro before text after hsplit head tail htext hne
    have hsource := more.flatMap_source
    rcases split_addChar hsplit with ⟨before', rfl⟩ | ⟨rfl, rfl⟩ | ⟨text', rfl, rfl⟩
    · exact ih before' text after rfl head tail htext hne
    · cases head with
      | nil =>
        obtain rfl : [c] = tail := htext
        rw [hsource]
        exact first
      | cons d head =>
        have hnil := (List.cons.inj htext).2
        exact absurd (List.append_eq_nil_iff.mp hnil.symm).2 hne
    · cases head with
      | nil =>
        obtain rfl : c :: text' = tail := htext
        rw [← hsource] at first
        exact first
      | cons d head => exact ih [] text' after rfl head tail (List.cons.inj htext).2 hne

theorem Cut.spelled {s : List Char} {parts : List Part} (h : Cut s parts) : Spelled parts := by
  induction h with
  | nil => exact fun _ _ hmem => absurd hmem List.not_mem_nil
  | placeholder first _ ih =>
    intro text p hmem
    rcases List.mem_cons.mp hmem with heq | hmem
    · cases heq
      exact first
    · exact ih text p hmem
  | @literal c rest parts first _ ih =>
    intro text p hmem
    refine ih text p ?_
    cases parts with
    | nil => cases List.mem_singleton.mp hmem
    | cons part parts =>
      cases part with
      | literal other => exact .tail _ ((List.mem_cons.mp hmem).resolve_left nofun)
      | placeholder other q => exact (List.mem_cons.mp hmem).resolve_left nofun

/-- The parts of a text are those of which no two are literal side by side, none is empty, and inside the
literal ones no placeholder begins. -/
theorem cut_of_free {parts : List Part} (hspelled : Spelled parts)
    (hnonempty : ∀ text, .literal text ∈ parts → text ≠ [])
    (hchain : parts.IsChain fun a b => a.isLiteral = true → b.isLiteral = false) (hfree : Free parts) :
    Cut (parts.flatMap source) parts := by
  induction parts with
  | nil => exact .nil
  | cons part parts ih =>
    have hrest : Cut (parts.flatMap source) parts := by
      refine ih (fun text p hmem => hspelled text p (.tail _ hmem))
        (fun text hmem => hnonempty text (.tail _ hmem)) hchain.tail fun before text after hsplit => ?_
      exact hfree (part :: before) text after (congrArg (part :: ·) hsplit)
    cases part with
    | placeholder text p => exact .placeholder (hspelled text p List.mem_cons_self) hrest
    | literal text =>
      -- The part is put together from its last character to its first.
      have hsuffix (tail : List Char) : ∀ head, text = head ++ tail → tail ≠ [] →
          Cut (tail ++ parts.flatMap source) (.literal tail :: parts) := by
        induction tail with
        | nil => exact fun _ _ hne => absurd rfl hne
        | cons c tail ihtail =>
          intro head htext hne
          have hliteral := hfree [] text parts rfl head (c :: tail) htext hne
          cases tail with
          | nil =>
            have hadd : addChar c parts = .literal [c] :: parts := by
              cases parts with
              | nil => rfl
              | cons next parts =>
                cases next with
                | literal other => cases (List.isChain_cons_cons.mp hchain).1 rfl
                | placeholder other p => rfl
            rw [← hadd]
            exact .literal hliteral hrest
          | cons d tail =>
            have hnext := ihtail (head ++ [c]) (by simpa using htext) (List.cons_ne_nil d tail)
            exact .literal hliteral hnext
      exact hsuffix text [] rfl (hnonempty text List.mem_cons_self)

section Shown

variable {parts : List Part}

theorem isLiteral_shown (part : Part) : part.shown.isLiteral = part.isLiteral := by
  cases part <;> rfl

theorem isChain_shown (h : parts.IsChain fun a b => a.isLiteral = true → b.isLiteral = false) :
    (parts.map shown).IsChain fun a b => a.isLiteral = true → b.isLiteral = false := by
  refine List.isChain_map_of_isChain shown (fun a b hab hliteral => ?_) h
  rw [isLiteral_shown] at hliteral ⊢
  exact hab hliteral

theorem literal_of_shown {part : Part} {text : List Char} (h : part.shown = .literal text) :
    part = .literal text := by
  cases part with
  | literal other => exact h
  | placeholder other p => cases h

theorem Spelled.shown (h : Spelled parts) : Spelled (parts.map shown) := by
  intro text p hmem
  obtain ⟨part, hpart, heq⟩ := List.mem_map.mp hmem
  cases part with
  | literal other => cases heq
  | placeholder other q =>
    cases heq
    exact spells_name (h other q hpart).isName

/-- The path shows the parts of a template, and it is read as them if and only if no placeholder begins
inside the literal ones. -/
theorem Cut.shown_iff {s : List Char} (h : Cut s parts) :
    Cut ((parts.map shown).flatMap source) (parts.map shown) ↔ Free (parts.map shown) := by
  refine ⟨Cut.free, fun hfree => ?_⟩
  refine cut_of_free h.spelled.shown (fun text hmem => ?_) (isChain_shown h.isChain) hfree
  obtain ⟨part, hpart, heq⟩ := List.mem_map.mp hmem
  exact (h.literal_free (literal_of_shown heq ▸ hpart)).1

/-- Parts with the segments of those that are shown, and with the same text, are the ones shown. -/
theorem eq_shown {others : List Part} (hothers : Spelled others) (hparts : Spelled parts)
    (hsegments : others.map segment = parts.map segment)
    (hsource : others.flatMap source = (parts.map shown).flatMap source) : others = parts.map shown := by
  induction parts generalizing others with
  | nil => exact List.map_eq_nil_iff.mp hsegments
  | cons part parts ih =>
    cases others with
    | nil => cases hsegments
    | cons other others =>
      obtain ⟨hsegment, hsegments⟩ := List.cons.inj hsegments
      rw [List.map_cons, List.flatMap_cons, List.flatMap_cons] at hsource
      have hmore (hrest : others.flatMap source = (parts.map shown).flatMap source) :=
        ih (fun text p hmem => hothers text p (.tail _ hmem))
          (fun text p hmem => hparts text p (.tail _ hmem)) hsegments hrest
      cases part with
      | literal text =>
        cases other with
        | placeholder text' q => cases hsegment
        | literal text' =>
          obtain rfl : text' = text := String.ofList_injective (Segment.literal.inj hsegment)
          rw [List.map_cons, hmore (List.append_cancel_left hsource)]
          rfl
      | placeholder text p =>
        cases other with
        | literal text' => cases hsegment
        | placeholder text' q =>
          obtain ⟨htext, hp, hrest⟩ := spells_unique (hothers text' q List.mem_cons_self)
            (spells_name (hparts text p List.mem_cons_self).isName) hsource
          rw [List.map_cons, hmore hrest, htext, hp]
          rfl

theorem opens_flatMap_source {text : List Char} (hspelled : Spelled parts)
    (hchain : (literal text :: parts).IsChain fun a b => a.isLiteral = true → b.isLiteral = false) :
    Opens (parts.flatMap source) := by
  cases parts with
  | nil => exact nofun
  | cons part parts =>
    cases part with
    | literal other => cases (List.isChain_cons_cons.mp hchain).1 rfl
    | placeholder other p =>
      obtain ⟨more, rfl, -⟩ := read?_of_spells (hspelled other p List.mem_cons_self) []
      rintro c ⟨⟩
      rfl

/-- Placeholders without braces inside are shown as the reader takes them. -/
theorem alike_shown (hspelled : Spelled parts) (hflat : ∀ text p, .placeholder text p ∈ parts → Flat text) :
    Alike (parts.flatMap source) ((parts.map shown).flatMap source) := by
  induction parts with
  | nil => exact .refl []
  | cons part parts ih =>
    have hrest := ih (fun text p hmem => hspelled text p (.tail _ hmem))
      fun text p hmem => hflat text p (.tail _ hmem)
    cases part with
    | literal text => exact hrest.append text
    | placeholder text p =>
      obtain ⟨inner, hinner, rfl⟩ := hflat text p List.mem_cons_self
      have hname : ∀ t ∈ p.name.map ([·]), Plain t := by
        intro t ht
        obtain ⟨c, hc, rfl⟩ := List.mem_map.mp ht
        exact plain_of_namePart ((hspelled _ p List.mem_cons_self).isName.part c hc)
      have hpair := hrest.pair hinner hname
      rw [flatten_blanks] at hpair
      simpa [source, shown] using hpair

/-- Literal text stays literal if each placeholder somewhere behind a brace in it is without braces inside. -/
theorem Cut.free_shown {s : List Char} (h : Cut s parts)
    (hflat : ∀ before text p after, parts = before ++ .placeholder text p :: after →
      (∃ other, .literal other ∈ before ∧ '{' ∈ other) → Flat text) : Free (parts.map shown) := by
  intro before text after hsplit head tail htext hne hbegins
  obtain ⟨before, rest, rfl, rfl, hrest⟩ := List.map_eq_append_iff.mp hsplit
  obtain ⟨part, after, rfl, hpart, rfl⟩ := List.map_eq_cons_iff.mp hrest
  obtain rfl := literal_of_shown hpart
  cases tail with
  | nil => exact hne rfl
  | cons c tail =>
    rw [List.cons_append, begins_iff] at hbegins
    obtain ⟨rfl, hread⟩ := hbegins
    have hbrace : '{' ∈ text := htext ▸ List.mem_append_right _ List.mem_cons_self
    have hspelled : Spelled after := fun other p hmem =>
      h.spelled other p (List.mem_append_right _ (.tail _ hmem))
    have hchain := h.isChain.right_of_append
    have halike : Alike (after.flatMap source) ((after.map shown).flatMap source) := by
      refine alike_shown hspelled fun other p hmem => ?_
      obtain ⟨between, behind, rfl⟩ := List.append_of_mem hmem
      exact hflat (before ++ .literal text :: between) other p behind (by simp)
        ⟨text, List.mem_append_right _ List.mem_cons_self, hbrace⟩
    rw [← isSome_read? halike (opens_flatMap_source hspelled hchain)
      (opens_flatMap_source hspelled.shown (isChain_shown hchain))] at hread
    exact h.free before text after rfl head ('{' :: tail) htext hne ((begins_iff _ _).mpr ⟨rfl, hread⟩)

end Shown

end Part

/-- No placeholder begins inside the literal text of the segments, as the path shows them. -/
def Segment.Free (segments : List Segment) : Prop :=
  ∀ before text after, segments = before ++ .literal text :: after →
    ∀ head tail, text.toList = head ++ tail → tail ≠ [] →
      ¬Part.Begins (tail ++ (String.join (after.map Segment.display)).toList)

namespace Part

variable {parts : List Part}

/-- The path is the parts as it shows them, one behind the other. -/
theorem toList_path (parts : List Part) :
    (String.join ((parts.map segment).map Segment.display)).toList = (parts.map shown).flatMap source := by
  induction parts with
  | nil => rfl
  | cons part parts ih =>
    rw [List.map_cons, List.map_cons, String.join_cons, String.toList_append, ih, List.map_cons,
      List.flatMap_cons]
    congr 1
    cases part with
    | literal text => exact String.toList_ofList
    | placeholder text p => simp [segment, shown, source, Segment.display]

theorem map_segment_shown (parts : List Part) : (parts.map shown).map segment = parts.map segment := by
  rw [List.map_map]
  refine List.map_congr_left fun part _ => ?_
  cases part <;> rfl

theorem free_segment_iff (parts : List Part) :
    Segment.Free (parts.map segment) ↔ Free (parts.map shown) := by
  constructor
  · intro h before text after hsplit head tail htext hne
    obtain ⟨before, rest, rfl, rfl, hrest⟩ := List.map_eq_append_iff.mp hsplit
    obtain ⟨part, after, rfl, hpart, rfl⟩ := List.map_eq_cons_iff.mp hrest
    obtain rfl := literal_of_shown hpart
    rw [← toList_path]
    refine h (before.map segment) (String.ofList text) (after.map segment) (by simp [segment]) head tail ?_
      hne
    rw [String.toList_ofList, htext]
  · intro h before text after hsplit head tail htext hne
    obtain ⟨before, rest, rfl, rfl, hrest⟩ := List.map_eq_append_iff.mp hsplit
    obtain ⟨part, after, rfl, hpart, rfl⟩ := List.map_eq_cons_iff.mp hrest
    cases part with
    | placeholder other p => cases hpart
    | literal other =>
      cases hpart
      rw [toList_path]
      rw [String.toList_ofList] at htext
      exact h (before.map shown) other (after.map shown) (by simp [shown]) head tail htext hne

end Part

namespace Route

open Pattern

variable {defaultPattern template : String} {method : Option MethodMask} {r : Route}

/-- Each parameter with the default pattern. -/
def defaulted (r : Route) (defaultPattern : String) : List (String × String) :=
  r.parameterNames.map (·, defaultPattern)

theorem map_fst_defaulted (r : Route) (defaultPattern : String) :
    (r.defaulted defaultPattern).map Prod.fst = r.parameterNames := by
  unfold defaulted
  rw [List.map_map]
  exact List.map_id r.parameterNames

theorem snd_of_mem_defaulted {p : String × String} (hp : p ∈ r.defaulted defaultPattern) :
    p.2 = defaultPattern := by
  obtain ⟨name, -, rfl⟩ := List.mem_map.mp hp
  rfl

/-- Where no placeholder begins inside literal text, the path is a template with the same segments, and each
parameter in it has the default pattern. -/
theorem fragments_path (h : parse defaultPattern template method = .ok r) (hfree : Segment.Free r.segments) :
    (Piece.ofTemplate r.path).map segment = r.segments ∧
      fragments defaultPattern r.path = r.defaulted defaultPattern := by
  obtain ⟨⟨parts, hcut, -, hsegments, -⟩, -⟩ := parse_cut h
  rw [hsegments] at hfree
  have hpath : r.path.toList = (parts.map Part.shown).flatMap Part.source := by
    rw [path, hsegments, Part.toList_path]
  have hshown := hcut.shown_iff.mpr ((Part.free_segment_iff parts).mp hfree)
  rw [← hpath] at hshown
  obtain ⟨others, hothers, hscan⟩ := Part.exists_cut (Nat.le_of_eq (String.length_toList (s := r.path)))
  obtain rfl := hothers.unique hshown
  have hpieces : Piece.ofTemplate r.path = (parts.map Part.shown).map Part.piece := hscan
  obtain ⟨-, -, -, -, -, hwell⟩ := parse_ok h
  constructor
  · rw [hpieces, hsegments, ← Part.map_segment_shown, List.map_map]
    refine List.map_congr_left fun part _ => ?_
    cases part <;> rfl
  · unfold fragments defaulted
    rw [hpieces, ← hwell.names, hsegments, List.map_map, List.filterMap_map, List.filterMap_map,
      List.map_filterMap]
    refine List.filterMap_congr fun part _ => ?_
    cases part <;> rfl

/-- If the path is read with the same segments, no placeholder begins inside literal text. -/
theorem free_of_parse_path (h : parse defaultPattern template method = .ok r) {r' : Route}
    (h' : parse defaultPattern r.path method = .ok r') (hsame : r'.segments = r.segments) :
    Segment.Free r.segments := by
  obtain ⟨⟨parts, hcut, -, hsegments, -⟩, -⟩ := parse_cut h
  obtain ⟨⟨others, hothers, -, hsegments', hsource, -⟩, -⟩ := parse_cut h'
  have hpath : r.path.toList = (parts.map Part.shown).flatMap Part.source := by
    rw [path, hsegments, Part.toList_path]
  have hshown : others = parts.map Part.shown :=
    Part.eq_shown hothers.spelled hcut.spelled (by rw [← hsegments, ← hsegments', hsame])
      (hsource.trans hpath)
  rw [hsegments, Part.free_segment_iff, ← hshown]
  exact hothers.free

/-- A default pattern that skips no blanks and comments and names no group compiles in the place of each
parameter. -/
theorem exists_regex_defaulted (hwell : r.WellFormed) (hsound : Sound (r.defaulted defaultPattern))
    (hquiet : Quiet defaultPattern) (hnames : Pattern.groupNames defaultPattern = []) :
    ∃ regex, compileRegex r.segments (r.defaulted defaultPattern) = .ok regex := by
  have hsplice : Spliceable r.segments (r.defaulted defaultPattern) := by
    refine ⟨hwell.names.trans (r.map_fst_defaulted defaultPattern).symm, hsound,
      hsound.encloses fun p hp => ?_⟩
    rw [snd_of_mem_defaulted hp]
    exact hquiet
  have hnil : groupNames (r.defaulted defaultPattern) = [] := by
    refine List.flatMap_eq_nil_iff.mpr fun p hp => ?_
    rw [snd_of_mem_defaulted (List.mem_reverse.mp hp)]
    exact hnames
  rw [hsplice.exists_regex_iff, hnil]
  exact List.nodup_nil

/-- The path is a fixed point of reading if and only if no placeholder begins inside its literal text and
the default pattern compiles in the place of each parameter. It does if it skips no blanks and comments and
names no group. Literal text stays literal if each placeholder somewhere behind a brace in it is without
braces inside. -/
theorem parse_path (h : parse defaultPattern template method = .ok r)
    (hvalid : ∀ name, validatePattern name defaultPattern = .ok ()) :
    ((∃ r', parse defaultPattern r.path method = .ok r' ∧ r'.segments = r.segments ∧
        r'.parameterNames = r.parameterNames ∧ r'.path = r.path) ↔
      Segment.Free r.segments ∧ ∃ regex, compileRegex r.segments (r.defaulted defaultPattern) = .ok regex) ∧
    (Quiet defaultPattern → Pattern.groupNames defaultPattern = [] →
      ∃ regex, compileRegex r.segments (r.defaulted defaultPattern) = .ok regex) ∧
    ((∀ parts, Part.Cut template.toList parts → ∀ before text p after,
        parts = before ++ .placeholder text p :: after →
          (∃ other, .literal other ∈ before ∧ '{' ∈ other) → Placeholder.Flat text) →
      Segment.Free r.segments) := by
  obtain ⟨-, -, -, -, -, hwell⟩ := parse_ok h
  have hsound : Sound (r.defaulted defaultPattern) := by
    refine ⟨(r.map_fst_defaulted defaultPattern).symm ▸ hwell.nodup, fun p hp => ?_⟩
    rw [snd_of_mem_defaulted hp]
    exact hvalid p.1
  refine ⟨⟨?_, ?_⟩, exists_regex_defaulted hwell hsound, fun hflat => ?_⟩
  · rintro ⟨r', hr', hsegments, hnames, -⟩
    have hfree := free_of_parse_path h hr' hsegments
    obtain ⟨hpieces, hfragments⟩ := fragments_path h hfree
    obtain ⟨-, regex, hregex, -⟩ := parse_eq_ok.mp hr'
    rw [hpieces, hfragments] at hregex
    exact ⟨hfree, regex, hregex⟩
  · rintro ⟨hfree, regex, hregex⟩
    obtain ⟨hpieces, hfragments⟩ := fragments_path h hfree
    let same : Route :=
      { template := r.path, segments := r.segments, method, patterns := r.defaulted defaultPattern, regex }
    refine ⟨same, ?_, rfl, r.map_fst_defaulted defaultPattern, rfl⟩
    rw [parse_eq_ok, hpieces, hfragments]
    exact ⟨hsound, regex, hregex, rfl⟩
  · obtain ⟨⟨parts, hcut, -, hsegments, -⟩, -⟩ := parse_cut h
    rw [hsegments, Part.free_segment_iff]
    exact hcut.free_shown (hflat parts hcut)

/-- A parameter with a pattern, behind a brace that is literal text. -/
theorem parse_path_number :
    let template := "/\x7b0/\x7bid:\\d+\x7d"
    ∃ r, parse "[^/]+" template none = .ok r ∧ (∀ name, validatePattern name "[^/]+" = .ok ()) ∧
      r.path = "/\x7b0/\x7bid\x7d" ∧
      ∃ r', parse "[^/]+" r.path none = .ok r' ∧ r'.segments = r.segments ∧
        r'.parameterNames = r.parameterNames ∧ r'.path = r.path := by
  intro template
  obtain ⟨r, hr, hpath⟩ := Option.map_eq_some_iff.mp
    (show (parse "[^/]+" template none).toOption.map path = some "/\x7b0/\x7bid\x7d" by decide +kernel)
  have hok := ok_of_toOption hr
  obtain ⟨hiff, hcompiles, hflat⟩ := parse_path hok validatePattern_segment
  refine ⟨r, hok, validatePattern_segment, hpath, hiff.mpr ⟨hflat ?_, hcompiles quiet_segment ?_⟩⟩
  · intro parts hparts before text p after hsplit _
    have hplain : ∀ t ∈ [['i'], ['d'], [':'], ['\\', 'd'], ['+']], Placeholder.Plain t := by
      rw [List.forall_mem_cons, List.forall_mem_cons, List.forall_mem_cons, List.forall_mem_cons,
        List.forall_mem_singleton]
      refine ⟨.single ?_ ?_ ?_, .single ?_ ?_ ?_, .single ?_ ?_ ?_, .escaped ?_, .single ?_ ?_ ?_⟩ <;>
        decide
    have hspells : Placeholder.Spells ['{', 'i', 'd', ':', '\\', 'd', '+', '}']
        ⟨['i', 'd'], ['\\', 'd', '+']⟩ :=
      @Placeholder.Spells.withBody [] ['i', 'd'] [] [['\\', 'd'], ['+']] (by simp)
        ⟨by decide, List.all_eq_true.mp (by decide)⟩
        fun t ht => .plain (hplain t (List.mem_of_mem_drop (i := 3) ht))
    have hchars : template.toList = ['/', '{', '0', '/', '{', 'i', 'd', ':', '\\', 'd', '+', '}'] := by
      decide +kernel
    have hliteral {c : Char} {s : List Char} (h : ¬(c = '{' ∧ (Placeholder.read? s).isSome = true)) :
        ¬Part.Begins (c :: s) := mt (Part.begins_iff c s).mp h
    have hcut := Part.Cut.literal (c := '/') (hliteral (by decide))
      (.literal (c := '{') (hliteral (by decide)) (.literal (c := '0') (hliteral (by decide))
        (.literal (c := '/') (hliteral (by decide)) (.placeholder hspells .nil))))
    rw [hchars] at hparts
    have hmem : .placeholder text p ∈ parts := hsplit ▸ List.mem_append_right _ List.mem_cons_self
    rw [hparts.unique hcut] at hmem
    rcases List.mem_cons.mp hmem with heq | hmem
    · cases heq
    · cases List.mem_singleton.mp hmem
      exact ⟨_, hplain, rfl⟩
  · decide +kernel

/-- The pattern of a parameter keeps the text before it from beginning a placeholder. The path shows no
pattern, and is read as one placeholder with a pattern that is none. -/
theorem parse_path_ne :
    let template := "/\x7bx:\x7bid:\\d\x7b4\x7d\x7d\x7d"
    (∀ name, validatePattern name "[^/]+" = .ok ()) ∧
    ∃ r, parse "[^/]+" template none = .ok r ∧ r.path = "/\x7bx:\x7bid\x7d\x7d" ∧
      parse "[^/]+" r.path none = .error (.invalidPattern "\x7bid\x7d") := by
  intro template
  refine ⟨validatePattern_segment, ?_⟩
  obtain ⟨r, hr, hfacts⟩ := Option.map_eq_some_iff.mp
    (show (parse "[^/]+" template none).toOption.map
        (fun r => (r.path, (parse "[^/]+" r.path none).map path)) =
      some ("/\x7bx:\x7bid\x7d\x7d", .error (.invalidPattern "\x7bid\x7d")) by decide +kernel)
  obtain ⟨hpath, hagain⟩ := Prod.mk.inj hfacts
  refine ⟨r, ok_of_toOption hr, hpath, ?_⟩
  cases hparse : parse "[^/]+" r.path none with
  | ok r' =>
    rw [hparse] at hagain
    cases hagain
  | error e =>
    rw [hparse] at hagain
    cases hagain
    rfl

end Route
end Routing
