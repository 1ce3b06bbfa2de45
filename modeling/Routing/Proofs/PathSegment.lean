import Routing.Proofs.Generation

/-! Templates with at most one placeholder, for a whole segment of the path, and the paths that such
routes accept. -/
namespace Routing

open Pattern Pattern.Expr Pattern.Way

namespace Piece

/-- Characters that open no placeholder belong to the text before what follows them. -/
theorem scan_append {text rest : List Char} (h : '{' ∉ text) (fuel : Nat) :
    scan (text.length + fuel) (text ++ rest) = text.foldr addChar (scan fuel rest) := by
  induction text with
  | nil => rw [List.length_nil, Nat.zero_add]; rfl
  | cons c text ih =>
    rw [List.mem_cons, not_or] at h
    rw [List.length_cons, Nat.succ_add, List.cons_append, scan, if_neg (Ne.symm h.1)]
    exact congrArg (addChar c) (ih h.2)

theorem foldr_addChar {text : List Char} (h : text ≠ []) {pieces : List Piece}
    (hpieces : ∀ other more, pieces ≠ literal other :: more) :
    text.foldr addChar pieces = literal text :: pieces := by
  induction text with
  | nil => exact absurd rfl h
  | cons c text ih =>
    rw [List.foldr_cons]
    cases text with
    | nil =>
      rw [List.foldr_nil]
      unfold addChar
      split
      · next other more => exact absurd rfl (hpieces other more)
      · rfl
    | cons d text =>
      rw [ih (List.cons_ne_nil d text)]
      rfl

def ofText (text : List Char) : List Piece :=
  if text.isEmpty then [] else [literal text]

theorem scan_text {text : List Char} (h : '{' ∉ text) (fuel : Nat) :
    scan (text.length + fuel) text = ofText text := by
  have hscan : scan (text.length + fuel) (text ++ []) = text.foldr addChar (scan fuel []) :=
    scan_append h fuel
  have hnil : scan fuel [] = [] := by cases fuel <;> rfl
  rw [List.append_nil, hnil] at hscan
  rw [hscan]
  unfold ofText
  split_ifs with hempty
  · rw [List.isEmpty_iff.mp hempty]
    rfl
  · exact foldr_addChar (by simpa using hempty) (by simp)

theorem ofTemplate_text {template : String} (h : '{' ∉ template.toList) :
    ofTemplate template = ofText template.toList := by
  unfold ofTemplate
  rw [← String.length_toList]
  exact scan_text h 0

theorem ofTemplate_id {before after : String} (hbefore : '{' ∉ before.toList) (hne : before ≠ "")
    (hafter : '{' ∉ after.toList) :
    ofTemplate (before ++ "\x7bid\x7d" ++ after) =
      literal before.toList :: placeholder ⟨['i', 'd'], []⟩ :: ofText after.toList := by
  have htext : (before ++ "\x7bid\x7d" ++ after).toList =
      before.toList ++ '{' :: 'i' :: 'd' :: '}' :: after.toList := by simp
  unfold ofTemplate
  rw [← String.length_toList, htext, List.length_append, scan_append hbefore]
  have hread : Placeholder.read? ('i' :: 'd' :: '}' :: after.toList) =
      some (⟨['i', 'd'], []⟩, after.toList) := rfl
  have hrest : scan ('{' :: 'i' :: 'd' :: '}' :: after.toList).length
      ('{' :: 'i' :: 'd' :: '}' :: after.toList) =
        placeholder ⟨['i', 'd'], []⟩ :: ofText after.toList := by
    rw [List.length_cons, scan, if_pos rfl, hread]
    exact congrArg (placeholder ⟨['i', 'd'], []⟩ :: ·) (scan_text hafter 3)
  rw [hrest]
  exact foldr_addChar (by simpa using hne) (by simp)

end Piece

/-- The text can stand for one segment of a path. -/
def IsSegment (text : String) : Prop := text ≠ "" ∧ '/' ∉ text.toList

theorem isSegment_ofList (text : List Char) :
    IsSegment (String.ofList text) ↔ text ≠ [] ∧ '/' ∉ text := by
  unfold IsSegment
  rw [ne_eq, ← String.toList_inj, String.toList_ofList]
  rfl

/-- The path that goes on from another one by the given steps. -/
def descend (path : String) (steps : List String) : String :=
  path ++ String.join (steps.map ("/" ++ ·))

theorem descend_nil (path : String) : descend path [] = path := String.append_empty

theorem descend_cons (path step : String) (steps : List String) :
    descend path (step :: steps) = path ++ "/" ++ step ++ descend "" steps := by
  rw [← String.toList_inj]
  simp [descend]

theorem toList_descend (path : String) (steps : List String) :
    (descend path steps).toList = path.toList ++ steps.flatMap fun step => '/' :: step.toList := by
  induction steps generalizing path with
  | nil => simp [descend_nil]
  | cons step steps ih => simp [descend_cons, ih]

/-- Up to the first slash, a text is what stands there. -/
theorem eq_of_append_steps {text other rest rest' : List Char} (h : '/' ∉ text) (h' : '/' ∉ other)
    (hrest : ∀ c ∈ rest.head?, c = '/') (hrest' : ∀ c ∈ rest'.head?, c = '/')
    (he : text ++ rest = other ++ rest') : text = other ∧ rest = rest' := by
  have hcut {text rest : List Char} (h : '/' ∉ text) (hrest : ∀ c ∈ rest.head?, c = '/') :
      (text ++ rest).takeWhile (· ≠ '/') = text := by
    rw [List.takeWhile_append_of_pos fun c hc => by
      simpa using fun he : c = '/' => h (he ▸ hc)]
    cases rest with
    | nil => rw [List.takeWhile_nil, List.append_nil]
    | cons c rest => simp [hrest c rfl]
  have htext : text = other := by
    rw [← hcut h hrest, he, hcut h' hrest']
  rw [htext] at he
  exact ⟨htext, List.append_cancel_left he⟩

/-- Paths tell the steps apart, as long as no step has a slash. -/
theorem descend_inj {path : String} {steps others : List String}
    (h : ∀ step ∈ steps, '/' ∉ step.toList) (h' : ∀ step ∈ others, '/' ∉ step.toList) :
    descend path steps = descend path others ↔ steps = others := by
  have hhead (steps : List String) :
      ∀ c ∈ (steps.flatMap fun step => '/' :: step.toList).head?, c = '/' := by
    cases steps <;> simp
  refine ⟨fun he => ?_, fun he => by rw [he]⟩
  rw [← String.toList_inj, toList_descend, toList_descend, List.append_cancel_left_eq] at he
  induction steps generalizing others with
  | nil =>
    cases others with
    | nil => rfl
    | cons other others => simp at he
  | cons step steps ih =>
    cases others with
    | nil => simp at he
    | cons other others =>
      rw [List.forall_mem_cons] at h h'
      rw [List.flatMap_cons, List.flatMap_cons, List.cons_append, List.cons_append,
        List.cons.injEq] at he
      obtain ⟨hstep, hrest⟩ := eq_of_append_steps h.1 h'.1 (hhead steps) (hhead others) he.2
      rw [String.toList_inj.mp hstep, ih h.2 h'.2 hrest]

namespace Pattern

theorem own_segment :
    own "[^/]+" = .rep 1 none true (.chars (.compl (.union .empty (.single '/')))) := by
  decide +kernel

theorem quiet_segment : Quiet "[^/]+" := by
  decide +kernel

theorem encloses_segment : Encloses "[^/]+" := by
  have hcompile : (compile? "[^/]+").isSome = true := by decide +kernel
  obtain ⟨p, hp⟩ := Option.isSome_iff_exists.mp hcompile
  exact encloses_of_quiet hp quiet_segment

theorem ways_segment {first : Nat} {c : Cursor} {way : Way} :
    way ∈ (own "[^/]+").ways first c ↔
      way.1 = [] ∧ way.2 ∈ c.ahead ∧ IsSegment (String.ofList (c.textTo way.2)) := by
  obtain ⟨captures, d⟩ := way
  have hset (x : Char) : (CharSet.compl (.union .empty (.single '/'))).mem x = true ↔ x ≠ '/' := by
    simp [CharSet.mem, @eq_comm _ '/']
  have hlength (hahead : d ∈ c.ahead) : c.textTo d ≠ [] ↔ c.pos + 1 ≤ d.pos := by
    have htext := Cursor.length_textTo hahead
    have hle := (Cursor.getElem?_ahead hahead).1
    rw [← List.length_pos_iff]
    omega
  rw [isSegment_ofList, own_segment]
  simp only [ways, set?, if_true]
  constructor
  · intro hway
    obtain ⟨e, he, heq⟩ := List.mem_map.mp hway
    cases heq
    obtain ⟨hreach, hpos⟩ := List.mem_filter.mp he
    obtain ⟨hahead, hall, -⟩ := Matcher.mem_reach_iff.mp hreach
    refine ⟨rfl, hahead, (hlength hahead).mpr (by simpa using hpos), fun hslash => ?_⟩
    exact (hset '/').mp (hall '/' hslash) rfl
  · rintro ⟨rfl, hahead, hne, hslash⟩
    refine List.mem_map.mpr ⟨d, List.mem_filter.mpr ⟨Matcher.mem_reach_iff.mpr ⟨hahead, ?_, ?_⟩, ?_⟩, rfl⟩
    · exact fun x hx => (hset x).mpr fun he => hslash (he ▸ hx)
    · intro n hn
      cases hn
    · simpa using (hlength hahead).mp hne

theorem matchesWhole_segment (text : String) : matchesWhole "[^/]+" text = true ↔ IsSegment text := by
  rw [encloses_segment.matchesWhole_iff]
  constructor
  · rintro ⟨way, hway, hend⟩
    obtain ⟨-, hahead, hsegment⟩ := ways_segment.mp hway
    have hrest := Cursor.rest_eq_textTo hahead
    rw [hend, List.append_nil] at hrest
    have htext : String.ofList ((Cursor.start text.toList).textTo way.2) = text := by
      rw [← hrest]
      exact String.ofList_toList
    rwa [htext] at hsegment
  · intro hsegment
    have hrest : (Cursor.start text.toList).rest = text.toList ++ [] := (List.append_nil _).symm
    obtain ⟨d, hahead, hpos, hend⟩ := Cursor.exists_ahead hrest
    refine ⟨([], d), ways_segment.mpr ⟨rfl, hahead, ?_⟩, hend⟩
    have htext := Cursor.rest_eq_textTo hahead
    rw [hend, List.append_nil] at htext
    rw [← htext]
    change IsSegment (String.ofList text.toList)
    rwa [String.ofList_toList]

end Pattern

namespace Route

theorem validatePattern_segment (name : String) : validatePattern name "[^/]+" = .ok () := by
  have hcount : (Pattern.compile? "[^/]+").map Pattern.groupCount = some 0 := by decide +kernel
  obtain ⟨p, hp, hp0⟩ := Option.map_eq_some_iff.mp hcount
  unfold validatePattern
  simp only [hp, hp0, if_true]

/-- The route has one parameter, which is for a segment of the path, between two texts. -/
structure OneSegment (r : Route) (before after : String) : Prop where
  wellFormed : r.WellFormed
  segments : r.segments =
    .literal before :: .param "id" :: if after = "" then [] else [.literal after]
  patterns : r.patterns = [("id", "[^/]+")]

namespace OneSegment

variable {r : Route} {before after : String}

theorem searchable (h : r.OneSegment before after) : r.Searchable := by
  refine ⟨h.wellFormed, ?_, ?_⟩
  · unfold isStatic
    rw [h.patterns]
    rfl
  · intro p hp
    rw [h.patterns, List.mem_singleton] at hp
    rw [hp]
    exact encloses_segment

theorem hidden_eq_zero (h : r.OneSegment before after) : r.hidden = 0 := by
  unfold hidden
  rw [h.patterns]
  simp [own_segment, slots]

theorem parts_eq (h : r.OneSegment before after) :
    r.parts = before.toList.map (fun x => .chars (.single x)) ++
      group (own "[^/]+") :: after.toList.map fun x => .chars (.single x) := by
  unfold parts
  rw [h.segments, h.patterns]
  by_cases hafter : after = "" <;> simp [partOf, hafter]

theorem ways_parts (h : r.OneSegment before after) {c : Cursor} {way : Way}
    (hway : way ∈ (seqAll r.parts).ways 1 c) :
    ∃ text, IsSegment text ∧ way.1 = [(1, text.toList)] ∧
      c.textTo way.2 = (before ++ text ++ after).toList := by
  have hslots : ((before.toList.map fun x => Expr.chars (.single x)).map slots).sum = 0 := by
    rw [List.sum_eq_zero_iff_forall_eq_nat]
    simp [slots]
  rw [h.parts_eq, ways_seqAll_append, hslots] at hway
  -- The way is cut behind the first text and behind the parameter.
  obtain ⟨_, f⟩ := way
  obtain ⟨l, d, l', hbefore, hrest, rfl⟩ := mem_andThen.mp hway
  rw [ways_seqAll_cons] at hrest
  obtain ⟨k, e, k', hgroup, hafter, rfl⟩ := mem_andThen.mp hrest
  obtain ⟨rfl, hd, hbeforeText⟩ := ways_literal hbefore
  obtain ⟨rfl, hf, hafterText⟩ := ways_literal hafter
  obtain ⟨⟨_, e⟩, hinner, heq⟩ := List.mem_map.mp hgroup
  cases heq
  obtain ⟨rfl, he, hsegment⟩ := ways_segment.mp hinner
  refine ⟨String.ofList (d.textTo e), hsegment, ?_, ?_⟩
  · rw [String.toList_ofList]
    rfl
  · rw [Cursor.textTo_trans hd (Cursor.mem_ahead_trans he hf), Cursor.textTo_trans he hf, hbeforeText,
      hafterText]
    simp

theorem of_values? (h : r.OneSegment before after) {path : String} {values : List String}
    (hvalues : r.values? path = some values) :
    ∃ text, IsSegment text ∧ path = before ++ text ++ after ∧ values = [text] := by
  have hcount : r.parameterCount = 1 := by
    unfold parameterCount
    rw [h.patterns]
    rfl
  rw [h.searchable.values?_eq h.hidden_eq_zero] at hvalues
  obtain ⟨captures, hwhole, rfl⟩ := Option.map_eq_some_iff.mp hvalues
  obtain ⟨way, hfind, rfl⟩ := Option.map_eq_some_iff.mp hwhole
  have hend := List.find?_some hfind
  have hway := List.mem_of_find?_eq_some hfind
  obtain ⟨text, hsegment, hcaptures, htext⟩ := h.ways_parts hway
  rw [whole?_textTo hway hend] at htext
  refine ⟨text, hsegment, String.toList_inj.mp htext, ?_⟩
  rw [hcaptures, hcount]
  simp [Captures.group?]

/-- Such a route accepts the paths that have a segment between the two texts. -/
theorem values?_eq_some (h : r.OneSegment before after) {path : String} {values : List String} :
    r.values? path = some values ↔
      ∃ text, IsSegment text ∧ path = before ++ text ++ after ∧ values = [text] := by
  refine ⟨h.of_values?, ?_⟩
  rintro ⟨text, hsegment, rfl, rfl⟩
  -- The path is the route filled with the text, so it is accepted, and only this text can be read from it.
  have hsearch := h.searchable
  have hused : r.used? [("id", text)] "id" = some text := by simp [used?]
  have hfits : r.Fits [("id", text)] := by
    refine ⟨fun p hp => ?_, fun p hp => ?_⟩
    · rw [List.mem_singleton.mp hp, parameterNames, h.patterns]
      exact List.mem_singleton_self _
    · rw [h.patterns, List.mem_singleton] at hp
      rw [hp, hused]
      exact (matchesWhole_segment text).mpr hsegment
  have hfilled : r.filled [("id", text)] = before ++ text ++ after := by
    unfold filled
    rw [h.segments, ← String.toList_inj]
    by_cases hafter : after = "" <;> simp [Segment.fill, hused, hafter]
  have hlook : ∀ p ∈ r.patterns, (own p.2).lookFree = true := by
    rw [h.patterns]
    decide +kernel
  have haccepts := hfits.accepts_filled h.wellFormed hsearch.enclosed hlook
  rw [hfilled, accepts_dynamic hsearch.dynamic] at haccepts
  obtain ⟨values, hvalues⟩ := Option.isSome_iff_exists.mp haccepts
  obtain ⟨other, -, hpath, rfl⟩ := h.of_values? hvalues
  have hother : text = other := by
    rw [← String.toList_inj] at hpath ⊢
    simpa using hpath
  rw [hvalues, hother]

end OneSegment

section Parse

variable {defaultPattern template before after : String} {method : Option MethodMask} {r : Route}

/-- A template without placeholders is its path. -/
theorem static_of_parse (htemplate : '{' ∉ template.toList)
    (h : parse defaultPattern template method = .ok r) : r.patterns = [] ∧ r.path = template := by
  have hpatterns := parse_patterns h
  obtain ⟨-, -, -, -, hsegments, -⟩ := parse_ok h
  unfold fragments at hpatterns
  rw [Piece.ofTemplate_text htemplate] at hpatterns hsegments
  unfold path
  rw [hsegments]
  unfold Piece.ofText at hpatterns ⊢
  split_ifs at hpatterns ⊢ with hempty
  · refine ⟨hpatterns, String.toList_inj.mp ?_⟩
    rw [List.isEmpty_iff.mp hempty]
    rfl
  · refine ⟨hpatterns, ?_⟩
    simp [segment, Segment.display]

theorem oneSegment_of_parse (hbefore : '{' ∉ before.toList) (hne : before ≠ "")
    (hafter : '{' ∉ after.toList)
    (h : parse "[^/]+" (before ++ "\x7bid\x7d" ++ after) method = .ok r) : r.OneSegment before after := by
  have hpatterns := parse_patterns h
  obtain ⟨-, -, -, -, hsegments, hwell⟩ := parse_ok h
  unfold fragments at hpatterns
  rw [Piece.ofTemplate_id hbefore hne hafter] at hpatterns hsegments
  have hid : String.ofList ['i', 'd'] = "id" := rfl
  have hempty : after.toList.isEmpty = true ↔ after = "" := by
    rw [List.isEmpty_iff, ← String.toList_inj]
    rfl
  refine ⟨hwell, ?_, ?_⟩
  · rw [hsegments]
    unfold Piece.ofText
    simp only [hempty]
    split_ifs <;> simp [segment, hid]
  · rw [hpatterns]
    unfold Piece.ofText
    split_ifs <;> rfl

end Parse

end Route
end Routing
