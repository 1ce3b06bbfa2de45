import Routing.Proofs.PathSegment
import Routing.Proofs.TemplateParts

/-! Templates that are put together from segments as the path shows them: names between braces, and texts
without braces. Reading them gives back the parameters. -/
namespace Routing

namespace Placeholder

/-- What stands between braces, if that is a placeholder. -/
def within? (inner : List Char) : Option Placeholder :=
  (read? (inner ++ ['}'])).map Prod.fst

/-- The next brace closes the text, since it holds none itself and does not escape it. -/
structure Closable (inner : List Char) : Prop where
  opening : '{' ∉ inner
  closing : '}' ∉ inner
  last : inner.getLast? ≠ some '\\'

theorem Closable.tail {c : Char} {inner : List Char} (h : Closable (c :: inner)) : Closable inner := by
  refine ⟨fun hmem => h.opening (List.mem_cons_of_mem c hmem),
    fun hmem => h.closing (List.mem_cons_of_mem c hmem), fun hlast => h.last ?_⟩
  rw [List.getLast?_cons, hlast]
  rfl

section Closing

variable {inner rest rest' : List Char} {items : List (List Char)} {p : Placeholder}

theorem Closable.eq_flatten (h : Closable inner) (hitems : ∀ t ∈ items, Item t)
    (he : inner ++ '}' :: rest = items.flatten ++ '}' :: rest') :
    inner = items.flatten ∧ rest = rest' := by
  induction items generalizing inner with
  | nil =>
    cases inner with
    | nil => exact ⟨rfl, (List.cons.inj he).2⟩
    | cons c inner =>
      have hc : c = '}' := (List.cons.inj he).1
      exact absurd (hc ▸ List.mem_cons_self) h.closing
  | cons text items ih =>
    rw [List.forall_mem_cons] at hitems
    rw [List.flatten_cons, List.append_assoc] at he
    cases hitems.1 with
    | plain hplain =>
      cases hplain with
      | @single d hopening hclosing hescape =>
        cases inner with
        | nil => exact absurd (List.cons.inj he).1.symm hclosing
        | cons c inner =>
          obtain ⟨rfl, hrest⟩ := List.cons.inj he
          obtain ⟨rfl, hsame⟩ := ih h.tail hitems.2 hrest
          exact ⟨rfl, hsame⟩
      | @escaped d hline =>
        -- The backslash is not the last character, so what it escapes belongs to the text too.
        match inner, h with
        | [], _ => cases he
        | [c], h =>
          obtain ⟨rfl, -⟩ := List.cons.inj he
          exact absurd rfl h.last
        | c :: c' :: inner, h =>
          obtain ⟨rfl, hnext⟩ := List.cons.inj he
          obtain ⟨rfl, hrest⟩ : c' = d ∧ inner ++ '}' :: rest = items.flatten ++ '}' :: rest' :=
            List.cons.inj hnext
          obtain ⟨rfl, hsame⟩ := ih h.tail.tail hitems.2 hrest
          exact ⟨rfl, hsame⟩
    | pair =>
      cases inner with
      | nil => cases he
      | cons c inner =>
        have hc : c = '{' := (List.cons.inj he).1
        exact absurd (hc ▸ List.mem_cons_self) h.opening

/-- Between the braces of a placeholder there are only items. -/
theorem Spells.eq_items {text : List Char} (h : Spells text p) :
    ∃ items : List (List Char), (∀ t ∈ items, Item t) ∧ text = '{' :: items.flatten ++ ['}'] := by
  have hname {before name after : List Char} (hblanks : ∀ c ∈ before ++ after, Text.isBlank c = true)
      (hname : IsName name) : ∀ c ∈ before ++ name ++ after, Plain [c] := by
    intro c hc
    rw [List.forall_mem_append] at hblanks
    rcases List.mem_append.mp hc with hc | hc
    · rcases List.mem_append.mp hc with hc | hc
      · exact plain_of_blank (hblanks.1 c hc)
      · exact plain_of_namePart (hname.part c hc)
    · exact plain_of_blank (hblanks.2 c hc)
  cases h with
  | @bare before name after hblanks hisName =>
    refine ⟨(before ++ name ++ after).map ([·]), Item.of_plain (hname hblanks hisName), ?_⟩
    rw [flatten_blanks]
    simp
  | @withBody before name after items hblanks hisName hbody =>
    have hcolon : Item [':'] := .plain (.single (by decide) (by decide) (by decide))
    refine ⟨(before ++ name ++ after).map ([·]) ++ [':'] :: items, ?_, ?_⟩
    · rw [List.forall_mem_append, List.forall_mem_cons]
      exact ⟨Item.of_plain (hname hblanks hisName), hcolon, hbody⟩
    · rw [List.flatten_append, flatten_blanks]
      simp

theorem Closable.of_read? (h : Closable inner) (hread : read? (inner ++ '}' :: rest) = some (p, rest')) :
    Spells ('{' :: inner ++ ['}']) p ∧ rest' = rest := by
  obtain ⟨more, hspells, hmore⟩ := spells_of_read? hread
  obtain ⟨items, hitems, htext⟩ := hspells.eq_items
  have hflat : more = items.flatten ++ ['}'] := by simpa using htext
  have hsplit : inner ++ '}' :: rest = items.flatten ++ '}' :: rest' := by
    rw [hmore, hflat, List.append_assoc]
    rfl
  obtain ⟨rfl, hrest⟩ := h.eq_flatten hitems hsplit
  exact ⟨htext ▸ hspells, hrest.symm⟩

theorem Closable.within?_eq_some (h : Closable inner) :
    within? inner = some p ↔ Spells ('{' :: inner ++ ['}']) p := by
  unfold within?
  constructor
  · intro hfirst
    obtain ⟨⟨q, tail⟩, hread, rfl⟩ := Option.map_eq_some_iff.mp hfirst
    exact (h.of_read? hread).1
  · intro hspells
    obtain ⟨more, hmore, hread⟩ := read?_of_spells hspells []
    obtain rfl : inner ++ ['}'] = more := (List.cons.inj hmore).2
    rw [List.append_nil] at hread
    rw [hread]
    rfl

/-- The reader stops at the brace behind the text, whatever follows. -/
theorem Closable.read?_eq (h : Closable inner) (rest : List Char) :
    read? (inner ++ '}' :: rest) = (within? inner).map fun p => (p, rest) := by
  cases hwithin : within? inner with
  | some p =>
    obtain ⟨more, hmore, hread⟩ := read?_of_spells (h.within?_eq_some.mp hwithin) rest
    obtain rfl : inner ++ ['}'] = more := (List.cons.inj hmore).2
    rw [List.append_assoc] at hread
    exact hread
  | none =>
    cases hread : read? (inner ++ '}' :: rest) with
    | none => rfl
    | some found =>
      have hsome := h.within?_eq_some.mpr (h.of_read? hread).1
      rw [hwithin] at hsome
      cases hsome

/-- A name stands for itself. -/
theorem within?_name {name : List Char} (h : IsName name) : within? name = some ⟨name, []⟩ := by
  have hspells : Spells ('{' :: name ++ ['}']) ⟨name, []⟩ := by
    simpa using @Spells.bare [] name [] (by simp) h
  obtain ⟨more, hmore, hread⟩ := read?_of_spells hspells []
  obtain rfl : name ++ ['}'] = more := (List.cons.inj hmore).2
  rw [List.append_nil] at hread
  unfold within?
  rw [hread]
  rfl

end Closing
end Placeholder

namespace Route

/-- The parameters that are read from a text. -/
def fragmentsIn (defaultPattern : String) (s : List Char) : List (String × String) :=
  (Piece.scan s.length s).filterMap (fragment? defaultPattern)

section Fragments

variable (defaultPattern : String)

theorem fragments_eq (template : String) :
    fragments defaultPattern template = fragmentsIn defaultPattern template.toList := by
  unfold fragments fragmentsIn Piece.ofTemplate
  rw [String.length_toList]

theorem scan_eq {fuel : Nat} {s : List Char} (h : s.length ≤ fuel) :
    Piece.scan fuel s = Piece.scan s.length s := by
  obtain ⟨parts, hcut, hscan⟩ := Part.exists_cut h
  obtain ⟨others, hcut', hscan'⟩ := Part.exists_cut (Nat.le_refl s.length)
  rw [hscan, hscan', hcut.unique hcut']

theorem filterMap_addChar (c : Char) (pieces : List Piece) :
    (Piece.addChar c pieces).filterMap (fragment? defaultPattern) =
      pieces.filterMap (fragment? defaultPattern) := by
  cases pieces with
  | nil => rfl
  | cons piece pieces => cases piece <;> rfl

/-- No parameter is read from a text in which no brace opens. -/
theorem fragmentsIn_append {text : List Char} (h : '{' ∉ text) (rest : List Char) :
    fragmentsIn defaultPattern (text ++ rest) = fragmentsIn defaultPattern rest := by
  unfold fragmentsIn
  rw [List.length_append, Piece.scan_append h]
  induction text with
  | nil => rfl
  | cons c text ih =>
    rw [List.mem_cons, not_or] at h
    rw [List.foldr_cons, filterMap_addChar]
    exact ih h.2

/-- What is read from a text between braces. -/
def parameter? (inner : String) : Option (String × String) :=
  (Placeholder.within? inner.toList).bind fun p => fragment? defaultPattern (.placeholder p)

theorem fragmentsIn_braces {inner : String} (h : Placeholder.Closable inner.toList) (rest : List Char) :
    fragmentsIn defaultPattern ('{' :: inner.toList ++ '}' :: rest) =
      (parameter? defaultPattern inner).toList ++ fragmentsIn defaultPattern rest := by
  have hread := h.read?_eq rest
  unfold fragmentsIn parameter?
  rw [List.cons_append, List.length_cons, Piece.scan, if_pos rfl, hread]
  cases hwithin : Placeholder.within? inner.toList with
  | some p =>
    have hfuel : rest.length ≤ (inner.toList ++ '}' :: rest).length := by
      rw [List.length_append, List.length_cons]
      omega
    dsimp only [Option.map_some]
    rw [scan_eq hfuel]
    rfl
  | none =>
    have hopen : '{' ∉ inner.toList ++ ['}'] := by simp [h.opening]
    have htext : inner.toList ++ '}' :: rest = (inner.toList ++ ['}']) ++ rest := by simp
    dsimp only [Option.map_none]
    rw [filterMap_addChar, htext]
    exact fragmentsIn_append defaultPattern hopen rest

end Fragments

end Route

namespace Segment

/-- The segment is read as it is displayed: braces stand only around names. -/
def Clear : Segment → Prop
  | literal text => '{' ∉ text.toList
  | param name => Placeholder.Closable name.toList

/-- The parameter that is read where the segment is displayed. -/
def read? (defaultPattern : String) : Segment → Option (String × String)
  | literal _ => none
  | param name => Route.parameter? defaultPattern name

end Segment

/-- The parameters of displayed segments are read one after the other. -/
theorem Route.fragments_display (defaultPattern : String) {segments : List Segment}
    (h : ∀ s ∈ segments, s.Clear) :
    fragments defaultPattern (String.join (segments.map Segment.display)) =
      segments.filterMap (Segment.read? defaultPattern) := by
  rw [fragments_eq]
  induction segments with
  | nil => rfl
  | cons segment segments ih =>
    rw [List.forall_mem_cons] at h
    rw [List.map_cons, String.join_cons, String.toList_append]
    cases segment with
    | literal text =>
      have hskip := fragmentsIn_append defaultPattern h.1
        (String.join (segments.map Segment.display)).toList
      exact hskip.trans (ih h.2)
    | param name =>
      have hbraces := fragmentsIn_braces defaultPattern h.1
        (String.join (segments.map Segment.display)).toList
      have htext : (Segment.param name).display.toList ++
          (String.join (segments.map Segment.display)).toList =
            '{' :: name.toList ++ '}' :: (String.join (segments.map Segment.display)).toList := by
        simp [Segment.display]
      rw [htext, hbraces, ih h.2]
      change (Segment.read? defaultPattern (.param name)).toList ++ _ = _
      cases hread : Segment.read? defaultPattern (.param name) with
      | none =>
        rw [List.filterMap_cons_none hread]
        rfl
      | some p =>
        rw [List.filterMap_cons_some hread]
        rfl

end Routing
