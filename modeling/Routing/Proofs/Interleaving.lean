import Routing.Proofs.ChunkSearch

/-! What the groups of a route match: the path is its literals, with the texts of the groups between
them. -/
namespace Routing

open Pattern Pattern.Expr Pattern.Way

namespace Pattern

namespace Cursor

theorem textTo_self (c : Cursor) : c.textTo c = [] := by
  unfold textTo
  rw [Nat.sub_self, List.take_zero]

theorem textTo_trans {c d e : Cursor} (hd : d ∈ c.ahead) (he : e ∈ d.ahead) :
    c.textTo e = c.textTo d ++ d.textTo e := by
  have hwhole := rest_eq_textTo (mem_ahead_trans hd he)
  rw [rest_eq_textTo hd, rest_eq_textTo he, ← List.append_assoc] at hwhole
  exact (List.append_cancel_right hwhole).symm

theorem textTo_advance {c : Cursor} {x : Char} {rest : List Char} (h : c.rest = x :: rest) :
    c.textTo (c.advance x rest) = [x] := by
  have hpos : (c.advance x rest).pos - c.pos = 1 := Nat.add_sub_cancel_left c.pos 1
  unfold textTo
  rw [hpos, h]
  rfl

end Cursor

/-- Characters match themselves. -/
theorem Expr.ways_literal {text : List Char} {first : Nat} {c : Cursor} {way : Way}
    (h : way ∈ (seqAll (text.map fun x => .chars (.single x))).ways first c) :
    way.1 = [] ∧ way.2 ∈ c.ahead ∧ c.textTo way.2 = text := by
  induction text generalizing first c way with
  | nil =>
    rw [List.mem_singleton.mp h]
    exact ⟨rfl, c.mem_ahead_self, c.textTo_self⟩
  | cons x text ih =>
    rw [List.map_cons, ways_seqAll_cons] at h
    obtain ⟨captures, e⟩ := way
    obtain ⟨l, d, l', hhere, hrest, rfl⟩ := mem_andThen.mp h
    obtain ⟨hnone, hahead, htext⟩ := ih hrest
    simp only [ways] at hhere
    split at hhere
    · cases hhere
    · next y rest hy =>
      split_ifs at hhere with hmem
      · cases List.mem_singleton.mp hhere
        rw [CharSet.mem_single, decide_eq_true_eq] at hmem
        have hstep := Cursor.mem_ahead_advance hy
        refine ⟨by simpa using hnone, Cursor.mem_ahead_trans hstep hahead, ?_⟩
        rw [Cursor.textTo_trans hstep hahead, Cursor.textTo_advance hy, htext, hmem]
        rfl
      · cases hhere

/-- A group without groups in it holds the text that it matched. -/
theorem Expr.ways_group {e : Expr} (he : e.slots = 0) {first : Nat} {c : Cursor} {way : Way}
    (h : way ∈ (group e).ways first c) :
    way.2 ∈ c.ahead ∧ way.1 = [(first, c.textTo way.2)] := by
  refine ⟨(group e).endAhead_ways first c way h, ?_⟩
  obtain ⟨⟨l, d⟩, hl, rfl⟩ := List.mem_map.mp h
  have hnone : l = [] := by
    rw [List.eq_nil_iff_forall_not_mem]
    intro p hp
    have hrange := e.captured_range (first + 1) c (l, d) hl p hp
    omega
  rw [hnone]
  rfl

/-- Texts that are held by groups with consecutive numbers. -/
theorem Captures.group?_zip (texts : List String) (first i : Nat) :
    group? ((List.range' first texts.length).zip (texts.map String.toList)) (first + i) =
      texts[i]? := by
  induction texts generalizing first i with
  | nil => rfl
  | cons text texts ih =>
    have hcons : (List.range' first (text :: texts).length).zip
        ((text :: texts).map String.toList) = [(first, text.toList)] ++
          (List.range' (first + 1) texts.length).zip (texts.map String.toList) := rfl
    rw [hcons, group?_append]
    cases i with
    | zero =>
      have hlater : ∀ p ∈ (List.range' (first + 1) texts.length).zip (texts.map String.toList),
          p.1 ≠ first + 0 := by
        intro p hp
        have hrange := List.mem_range'_1.mp (List.of_mem_zip hp).1
        omega
      rw [group?_eq_none hlater, Option.none_or]
      simp [group?]
    | succ i =>
      have hfirst : ∀ p ∈ [(first, text.toList)], p.1 ≠ first + (i + 1) := by simp
      have hnumber : first + (i + 1) = first + 1 + i := by omega
      rw [group?_eq_none hfirst, Option.or_none, hnumber, ih]
      rfl

end Pattern

/-- The segment, with texts in the place of parameters. -/
def Segment.fill (text : String → String) : Segment → String
  | literal text => text
  | param name => text name

/-- A text for a parameter that is not among the segments changes nothing. -/
theorem Segment.fill_cons {segments : List Segment} {name : String}
    (h : name ∉ segments.filterMap param?) (text : String) (pairs : List (String × String)) :
    (segments.flatMap fun s =>
      (s.fill fun other => (((name, text) :: pairs).lookup other).getD "").toList) =
      segments.flatMap fun s => (s.fill fun other => (pairs.lookup other).getD "").toList := by
  refine List.flatMap_congr fun s hs => ?_
  cases s with
  | literal text => rfl
  | param other =>
    have hin : other ∈ segments.filterMap param? := List.mem_filterMap.mpr ⟨_, hs, rfl⟩
    have hne : other ≠ name := fun he => h (he ▸ hin)
    rw [fill, fill, List.lookup_cons, beq_false_of_ne hne]

namespace Route

/-- The texts of the groups, one for each parameter, fill the segments to the text that is matched. -/
theorem ways_segments {patterns : List (String × String)}
    (hflat : ∀ name, (own ((patterns.lookup name).getD "")).slots = 0) {segments : List Segment}
    (hnodup : (segments.filterMap Segment.param?).Nodup) {first : Nat} {c : Cursor} {way : Way}
    (h : way ∈ (seqAll (segments.flatMap (partOf patterns))).ways first c) :
    ∃ texts : List String, texts.length = (segments.filterMap Segment.param?).length ∧
      way.1 = (List.range' first texts.length).zip (texts.map String.toList) ∧ way.2 ∈ c.ahead ∧
      c.textTo way.2 = (String.join (segments.map (Segment.fill fun name =>
        (((segments.filterMap Segment.param?).zip texts).lookup name).getD ""))).toList := by
  simp only [String.toList_join, List.flatMap_map]
  induction segments generalizing first c way with
  | nil =>
    rw [List.mem_singleton.mp h]
    exact ⟨[], rfl, rfl, c.mem_ahead_self, c.textTo_self⟩
  | cons s segments ih =>
    rw [List.flatMap_cons, ways_seqAll_append] at h
    obtain ⟨captures, e⟩ := way
    -- The way is cut at the end of the first segment, at the position `d`.
    obtain ⟨l, d, l', hhere, hrest, rfl⟩ := mem_andThen.mp h
    cases s with
    | literal text =>
      obtain ⟨hnone, hstep, htext⟩ := ways_literal hhere
      have hslots : ((partOf patterns (.literal text)).map slots).sum = 0 := by
        rw [List.sum_eq_zero_iff_forall_eq_nat]
        simp [partOf, slots]
      rw [hslots, Nat.add_zero] at hrest
      obtain ⟨texts, hlength, hcaptures, hahead, hfill⟩ := ih hnodup hrest
      refine ⟨texts, hlength, ?_, Cursor.mem_ahead_trans hstep hahead, ?_⟩
      · rw [← hcaptures]
        exact congrArg (· ++ l') hnone
      · rw [Cursor.textTo_trans hstep hahead, htext, hfill]
        rfl
    | param name =>
      obtain ⟨hstep, hcapture⟩ := ways_group (hflat name) hhere
      have hslots : ((partOf patterns (.param name)).map slots).sum = 1 := by
        simp [partOf, slots, hflat]
      have hcons : (Segment.param name :: segments).filterMap Segment.param? =
          name :: segments.filterMap Segment.param? := rfl
      rw [hslots] at hrest
      rw [hcons, List.nodup_cons] at hnodup
      obtain ⟨texts, hlength, hcaptures, hahead, hfill⟩ := ih hnodup.2 hrest
      refine ⟨String.ofList (c.textTo d) :: texts, ?_, ?_, Cursor.mem_ahead_trans hstep hahead, ?_⟩
      · rw [hcons, List.length_cons, List.length_cons, hlength]
      · rw [List.length_cons, List.range'_succ, List.map_cons, String.toList_ofList,
          List.zip_cons_cons, ← hcaptures]
        exact congrArg (· ++ l') hcapture
      · rw [Cursor.textTo_trans hstep hahead, hfill, List.flatMap_cons, hcons, List.zip_cons_cons]
        congr 1
        · simp [Segment.fill]
        · exact (Segment.fill_cons hnodup.1 _ _).symm

/-- The groups of a route without hidden ones hold the values, one for each parameter, and the path is the
literals with the values between them. -/
theorem Searchable.exists_groups {r : Route} (hr : r.Searchable) (hhidden : r.hidden = 0)
    {path : String} {captures : Captures} (h : r.wholeMatch? path = some captures) :
    ∃ values : List String, r.values? path = some values ∧ values.length = r.parameterCount ∧
      captures = (List.range' 1 values.length).zip (values.map String.toList) ∧
      path = String.join (r.segments.map (Segment.fill fun name =>
        ((r.parameterNames.zip values).lookup name).getD "")) := by
  have hgroups := hr.values?_eq hhidden path
  rw [h, Option.map_some] at hgroups
  obtain ⟨way, hfind, rfl⟩ := Option.map_eq_some_iff.mp h
  have hway := List.mem_of_find?_eq_some hfind
  have hflat : ∀ name, (own ((r.patterns.lookup name).getD "")).slots = 0 := by
    intro name
    cases hlookup : r.patterns.lookup name with
    | none =>
      rw [Option.getD_none, own_nil]
      rfl
    | some pattern =>
      rw [Option.getD_some]
      exact hidden_eq_zero.mp hhidden (name, pattern) (Chunk.mem_of_lookup hlookup)
  have hnames := hr.wellFormed.names
  have hnodup := hr.wellFormed.nodup
  rw [← hnames] at hnodup
  obtain ⟨texts, hlength, hcaptures, -, htext⟩ := ways_segments hflat hnodup hway
  have hend := List.find?_some hfind
  rw [whole?_textTo hway hend, hnames] at htext
  have hcount : texts.length = r.parameterCount := by
    rw [hlength, hnames, parameterNames, List.length_map, parameterCount]
  refine ⟨texts, ?_, hcount, hcaptures, String.toList_inj.mp htext⟩
  rw [hgroups, hcaptures]
  refine congrArg some (List.ext_getElem (by simp [hcount]) fun i hi hi' => ?_)
  rw [List.getElem_map, List.getElem_range, Nat.add_comm, Captures.group?_zip,
    List.getElem?_eq_getElem hi']
  rfl

/-- A path that a route accepts is its literals with the values between them. -/
theorem Searchable.fill_values {r : Route} (hr : r.Searchable) (hhidden : r.hidden = 0)
    {path : String} {values : List String} (h : r.values? path = some values) :
    values.length = r.parameterCount ∧ path = String.join (r.segments.map (Segment.fill fun name =>
      ((r.parameterNames.zip values).lookup name).getD "")) := by
  obtain ⟨captures, hwhole⟩ := hr.exists_captures h
  obtain ⟨texts, htexts, hcount, -, hfill⟩ := hr.exists_groups hhidden hwhole
  rw [h, Option.some.injEq] at htexts
  rw [htexts]
  exact ⟨hcount, hfill⟩

end Route
end Routing
