import Routing.Proofs.RouteChanges
import Routing.Proofs.TemplateGrammar

/-! The parts of a template as it is written: a placeholder wherever one begins, and literal text in
between. -/
namespace Routing

open Placeholder

/-- A part of a template, with its source text. -/
inductive Part
  | literal (text : List Char)
  | placeholder (text : List Char) (p : Placeholder)

namespace Part

def source : Part → List Char
  | literal text => text
  | placeholder text _ => text

def piece : Part → Piece
  | literal text => .literal text
  | placeholder _ p => .placeholder p

def segment : Part → Segment
  | literal text => .literal (String.ofList text)
  | placeholder _ p => .param (String.ofList p.name)

/-- The parameter of a placeholder, with the default pattern if it brings none. -/
def parameter? (defaultPattern : String) : Part → Option (String × String)
  | literal _ => none
  | placeholder _ p =>
    some (String.ofList p.name, if p.pattern = [] then defaultPattern else String.ofList p.pattern)

def isLiteral : Part → Bool
  | literal _ => true
  | placeholder .. => false

def addChar (c : Char) : List Part → List Part
  | literal text :: parts => literal (c :: text) :: parts
  | parts => literal [c] :: parts

/-- The text begins with a placeholder. -/
def Begins (s : List Char) : Prop := ∃ text p rest, Spells text p ∧ s = text ++ rest

/-- The parts of a text from left to right: a placeholder where one begins, and else a literal character,
which belongs to the same part as the literal characters behind it. -/
inductive Cut : List Char → List Part → Prop
  | nil : Cut [] []
  | placeholder {text rest : List Char} {p : Placeholder} {parts : List Part} (first : Spells text p)
    (more : Cut rest parts) : Cut (text ++ rest) (.placeholder text p :: parts)
  | literal {c : Char} {rest : List Char} {parts : List Part} (first : ¬Begins (c :: rest))
    (more : Cut rest parts) : Cut (c :: rest) (addChar c parts)

theorem map_piece_addChar (c : Char) (parts : List Part) :
    (addChar c parts).map piece = Piece.addChar c (parts.map piece) := by
  cases parts with
  | nil => rfl
  | cons part parts => cases part <;> rfl

/-- The scanner cuts a template into its parts. -/
theorem exists_cut {fuel : Nat} {s : List Char} (h : s.length ≤ fuel) :
    ∃ parts, Cut s parts ∧ Piece.scan fuel s = parts.map piece := by
  induction fuel generalizing s with
  | zero =>
    rw [List.length_eq_zero_iff.mp (Nat.le_zero.mp h)]
    exact ⟨[], .nil, rfl⟩
  | succ fuel ih =>
    cases s with
    | nil => exact ⟨[], .nil, rfl⟩
    | cons c rest =>
      rw [List.length_cons, Nat.add_le_add_iff_right] at h
      cases hread : (if c = '{' then read? rest else none) with
      | none =>
        have hliteral : ¬Begins (c :: rest) := by
          rintro ⟨text, p, tail, hspells, htext⟩
          obtain ⟨more, rfl, hmore⟩ := read?_of_spells hspells tail
          obtain ⟨rfl, rfl⟩ : c = '{' ∧ rest = more ++ tail := List.cons.inj htext
          rw [if_pos rfl, hmore] at hread
          cases hread
        obtain ⟨parts, hcut, hscan⟩ := ih h
        refine ⟨addChar c parts, .literal hliteral hcut, ?_⟩
        rw [Piece.scan, hread, map_piece_addChar, ← hscan]
      | some found =>
        obtain ⟨p, tail⟩ := found
        split_ifs at hread with hopening
        obtain ⟨more, hspells, rfl⟩ := spells_of_read? hread
        have htail : tail.length ≤ fuel := by
          rw [List.length_append] at h
          omega
        obtain ⟨parts, hcut, hscan⟩ := ih htail
        subst hopening
        refine ⟨.placeholder ('{' :: more) p :: parts, .placeholder hspells hcut, ?_⟩
        rw [Piece.scan, if_pos rfl, hread]
        exact congrArg (Piece.placeholder p :: ·) hscan

/-- A text has its parts in one way only. -/
theorem Cut.unique {s : List Char} {parts others : List Part} (h : Cut s parts) (h' : Cut s others) :
    parts = others := by
  induction h generalizing others with
  | nil =>
    generalize hs : ([] : List Char) = s at h'
    cases h' with
    | nil => rfl
    | placeholder first more => exact absurd (List.append_eq_nil_iff.mp hs.symm).1 first.ne_nil
    | literal => cases hs
  | @placeholder text rest p parts first more ih =>
    generalize hs : text ++ rest = s at h'
    cases h' with
    | nil => exact absurd (List.append_eq_nil_iff.mp hs).1 first.ne_nil
    | placeholder first' more' =>
      obtain ⟨rfl, rfl, rfl⟩ := spells_unique first first' hs
      rw [ih more']
    | literal hliteral more' => exact absurd ⟨text, p, rest, first, hs.symm⟩ hliteral
  | @literal c rest parts hliteral more ih =>
    generalize hs : c :: rest = s at h'
    cases h' with
    | nil => cases hs
    | placeholder first' more' => exact absurd ⟨_, _, _, first', hs⟩ hliteral
    | literal _ more' =>
      cases hs
      rw [ih more']

theorem flatMap_source_addChar (c : Char) (parts : List Part) :
    (addChar c parts).flatMap source = c :: parts.flatMap source := by
  cases parts with
  | nil => rfl
  | cons part parts => cases part <;> rfl

/-- Nothing of the text is lost. -/
theorem Cut.flatMap_source {s : List Char} {parts : List Part} (h : Cut s parts) :
    parts.flatMap source = s := by
  induction h with
  | nil => rfl
  | placeholder _ _ ih => rw [List.flatMap_cons, ih]; rfl
  | literal _ _ ih => rw [flatMap_source_addChar, ih]

theorem of_mem_addChar {c : Char} {parts : List Part} {text : List Char}
    (h : .literal text ∈ addChar c parts) :
    .literal text ∈ parts ∨ ∃ tail rest, text = c :: tail ∧ parts.flatMap source = tail ++ rest ∧
      (tail = [] ∨ .literal tail ∈ parts) := by
  cases parts with
  | nil =>
    cases List.mem_singleton.mp h
    exact .inr ⟨[], [], rfl, rfl, .inl rfl⟩
  | cons part parts =>
    cases part with
    | literal tail =>
      rcases List.mem_cons.mp h with heq | hmem
      · cases heq
        exact .inr ⟨tail, _, rfl, List.flatMap_cons, .inr List.mem_cons_self⟩
      · exact .inl (List.mem_cons_of_mem _ hmem)
    | placeholder other p =>
      rcases List.mem_cons.mp h with heq | hmem
      · cases heq
        exact .inr ⟨[], _, rfl, rfl, .inl rfl⟩
      · exact .inl hmem

/-- A literal part is not empty, and no placeholder stands in it. -/
theorem Cut.literal_free {s : List Char} {parts : List Part} (h : Cut s parts) {text : List Char}
    (hmem : .literal text ∈ parts) :
    text ≠ [] ∧ ∀ before inner after p, text = before ++ inner ++ after → ¬Spells inner p := by
  induction h generalizing text with
  | nil => cases hmem
  | placeholder _ _ ih =>
    rcases List.mem_cons.mp hmem with heq | hmem
    · cases heq
    · exact ih hmem
  | @literal c rest parts hliteral hmore ih =>
    rcases of_mem_addChar hmem with hmem | ⟨tail, more, rfl, hsource, htail⟩
    · exact ih hmem
    · rw [hmore.flatMap_source] at hsource
      refine ⟨List.cons_ne_nil c tail, fun before inner after p htext hspells => ?_⟩
      cases before with
      | nil =>
        -- A placeholder at the start of the part begins at the character that was put there.
        refine hliteral ⟨inner, p, after ++ more, hspells, ?_⟩
        rw [hsource, ← List.append_assoc, ← List.cons_append, htext]
        rfl
      | cons first before =>
        cases htext
        rcases htail with hnil | hmem
        · have hinner := (List.append_eq_nil_iff.mp (List.append_eq_nil_iff.mp hnil).1).2
          exact hspells.ne_nil hinner
        · exact (ih hmem).2 before inner after p rfl hspells

theorem isChain_addChar {parts : List Part}
    (h : parts.IsChain fun a b => a.isLiteral = true → b.isLiteral = false) (c : Char) :
    (addChar c parts).IsChain fun a b => a.isLiteral = true → b.isLiteral = false := by
  cases parts with
  | nil => exact .singleton _
  | cons part parts =>
    cases part with
    | placeholder text p => exact List.isChain_cons_cons.mpr ⟨fun _ => rfl, h⟩
    | literal text =>
      cases parts with
      | nil => exact .singleton _
      | cons next parts =>
        have hnext := List.isChain_cons_cons.mp h
        exact List.isChain_cons_cons.mpr hnext

/-- No two literal parts stand side by side. -/
theorem Cut.isChain {s : List Char} {parts : List Part} (h : Cut s parts) :
    parts.IsChain fun a b => a.isLiteral = true → b.isLiteral = false := by
  induction h with
  | nil => exact .nil
  | @placeholder text rest p parts _ _ ih =>
    cases parts with
    | nil => exact .singleton _
    | cons next parts =>
      refine List.isChain_cons_cons.mpr ⟨fun hliteral => ?_, ih⟩
      cases hliteral
  | literal _ _ ih => exact isChain_addChar ih _

end Part

namespace Route

/-- A template that is read is cut into parts in one way, and the route has their segments and patterns. A
placeholder ends where it first can: none goes on where another one ends. -/
theorem parse_cut {defaultPattern template : String} {method : Option MethodMask} {r : Route}
    (h : parse defaultPattern template method = .ok r) :
    (∃ parts, Part.Cut template.toList parts ∧
      (∀ others, Part.Cut template.toList others → others = parts) ∧
      r.segments = parts.map Part.segment ∧
      parts.flatMap Part.source = template.toList ∧
      (∀ text, .literal text ∈ parts → text ≠ [] ∧
        ∀ before inner after p, text = before ++ inner ++ after → ¬Spells inner p) ∧
      (parts.IsChain fun a b => a.isLiteral = true → b.isLiteral = false) ∧
      r.patterns = parts.filterMap (Part.parameter? defaultPattern)) ∧
    ∀ text other p q, Spells text p → Spells other q → text <+: other → text = other ∧ p = q := by
  refine ⟨?_, fun text other p q htext hother => ?_⟩
  · obtain ⟨parts, hcut, hscan⟩ := Part.exists_cut (Nat.le_of_eq (String.length_toList (s := template)))
    have hpieces : Piece.ofTemplate template = parts.map Part.piece := hscan
    obtain ⟨-, -, -, -, hsegments, -⟩ := parse_ok h
    refine ⟨parts, hcut, fun others hothers => hothers.unique hcut, ?_, hcut.flatMap_source,
      fun text hmem => hcut.literal_free hmem, hcut.isChain, ?_⟩
    · rw [hsegments, hpieces, List.map_map]
      refine List.map_congr_left fun part _ => ?_
      cases part <;> rfl
    · rw [parse_patterns h]
      unfold fragments
      rw [hpieces, List.filterMap_map]
      refine List.filterMap_congr fun part _ => ?_
      cases part with
      | literal text => rfl
      | placeholder text p => simp [fragment?, Part.piece, Part.parameter?]
  · rintro ⟨rest, hrest⟩
    have hsame : text ++ rest = other ++ [] := by rw [hrest, List.append_nil]
    obtain ⟨heq, hp, -⟩ := spells_unique htext hother hsame
    exact ⟨heq, hp⟩

/-- Braces inside a pattern and behind a backslash close nothing, and blanks around a pattern are left
out; what only looks like a placeholder is literal text. -/
theorem parse_cut_year :
    let template := "/\x7b0\x7d/\x7b year : \\d\x7b4\x7d \x7d\x7bx:[^\\\x7d]+\x7d\x7by\x7d"
    ∃ r, parse "[^/]+" template none = .ok r ∧
      r.segments = [.literal "/\x7b0\x7d/", .param "year", .param "x", .param "y"] ∧
      r.patterns = [("year", "\\d\x7b4\x7d"), ("x", "[^\\\x7d]+"), ("y", "[^/]+")] ∧
      ∃ parts, Part.Cut template.toList parts ∧ r.segments = parts.map Part.segment ∧
        r.patterns = parts.filterMap (Part.parameter? "[^/]+") := by
  intro template
  have hread : (parse "[^/]+" template none).toOption.map (fun r => (r.segments, r.patterns)) =
      some ([.literal "/\x7b0\x7d/", .param "year", .param "x", .param "y"],
        [("year", "\\d\x7b4\x7d"), ("x", "[^\\\x7d]+"), ("y", "[^/]+")]) := by
    decide +kernel
  obtain ⟨r, hr, hfields⟩ := Option.map_eq_some_iff.mp hread
  obtain ⟨hsegments, hpatterns⟩ := Prod.mk.inj hfields
  have hok := ok_of_toOption hr
  obtain ⟨parts, hcut, -, hsegments', -, -, -, hpatterns'⟩ := (parse_cut hok).1
  exact ⟨r, hok, hsegments, hpatterns, parts, hcut, hsegments', hpatterns'⟩

end Route
end Routing
