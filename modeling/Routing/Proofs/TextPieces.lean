import Mathlib.Data.List.DropRight
import Routing.Text.Blank

/-! What is left of a text when the blanks around it are dropped, and the pieces between its
separators, each said without the functions that compute it. -/
namespace Routing.Text

/-- All of the text but the blanks around it. -/
structure Trims (text inner : List Char) : Prop where
  around : ∃ before after, text = before ++ inner ++ after ∧
    (∀ c ∈ before, isBlank c = true) ∧ ∀ c ∈ after, isBlank c = true
  first : ∀ c ∈ inner.head?, isBlank c = false
  last : ∀ c ∈ inner.getLast?, isBlank c = false

/-- The pieces stand between the separators of the text, and hold none. -/
inductive Pieces (isSeparator : Char → Bool) : List Char → List (List Char) → Prop
  | last {piece : List Char} (h : ∀ c ∈ piece, isSeparator c = false) : Pieces isSeparator piece [piece]
  | more {piece rest : List Char} {pieces : List (List Char)} {c : Char}
    (h : ∀ d ∈ piece, isSeparator d = false) (hc : isSeparator c = true)
    (hrest : Pieces isSeparator rest pieces) :
    Pieces isSeparator (piece ++ c :: rest) (piece :: pieces)

theorem dropWhile_of_head {p : Char → Bool} {s : List Char} (h : ∀ c ∈ s.head?, p c = false) :
    s.dropWhile p = s := by
  cases s with
  | nil => rfl
  | cons c s => rw [List.dropWhile_cons_of_neg (by simp [h c rfl])]

theorem trim_eq (text : List Char) : trim text = (text.dropWhile isBlank).rdropWhile isBlank := rfl

theorem trims_trim (text : List Char) : Trims text (trim text) := by
  rw [trim_eq]
  generalize hmid : text.dropWhile isBlank = middle
  have hfirst : ∀ c ∈ middle.head?, isBlank c = false := by
    intro c hc
    have hnot := List.head?_dropWhile_not isBlank text
    rw [hmid, Option.mem_def.mp hc] at hnot
    exact hnot
  obtain ⟨after, hafter⟩ := List.rdropWhile_prefix isBlank (l := middle)
  refine ⟨⟨text.takeWhile isBlank, (middle.reverse.takeWhile isBlank).reverse, ?_, ?_, ?_⟩, ?_, ?_⟩
  · have hback : middle.rdropWhile isBlank ++ (middle.reverse.takeWhile isBlank).reverse = middle := by
      rw [List.rdropWhile, ← List.reverse_append, List.takeWhile_append_dropWhile, List.reverse_reverse]
    rw [List.append_assoc, hback, ← hmid, List.takeWhile_append_dropWhile]
  · exact fun c hc => List.mem_takeWhile_imp hc
  · exact fun c hc => List.mem_takeWhile_imp (List.mem_reverse.mp hc)
  · intro c hc
    refine hfirst c ?_
    rw [← hafter, List.head?_append, Option.mem_def.mp hc]
    rfl
  · intro c hc
    have hne : middle.rdropWhile isBlank ≠ [] := by
      rintro hnil
      rw [hnil] at hc
      cases hc
    have hnot := List.rdropWhile_last_not isBlank middle hne
    rw [List.getLast?_eq_getLast_of_ne_nil hne, Option.mem_some_iff] at hc
    rw [← hc]
    simpa using hnot

theorem trims_iff {text inner : List Char} : Trims text inner ↔ inner = trim text := by
  constructor
  · rintro ⟨⟨before, after, rfl, hbefore, hafter⟩, hfirst, hlast⟩
    rw [trim_eq, List.append_assoc, List.dropWhile_append_of_pos hbefore]
    cases inner with
    | nil =>
      have hall : after.dropWhile isBlank = [] := List.dropWhile_eq_nil_iff.mpr hafter
      rw [List.nil_append, hall]
      rfl
    | cons c inner =>
      have hhere : ((c :: inner) ++ after).dropWhile isBlank = (c :: inner) ++ after :=
        dropWhile_of_head hfirst
      have hback : ∀ d ∈ (c :: inner).reverse.head?, isBlank d = false := by
        rw [List.head?_reverse]
        exact hlast
      rw [hhere, List.rdropWhile, List.reverse_append,
        List.dropWhile_append_of_pos fun d hd => hafter d (List.mem_reverse.mp hd),
        dropWhile_of_head hback, List.reverse_reverse]
  · rintro rfl
    exact trims_trim text

theorem pieces_splitWhere (isSeparator : Char → Bool) (text : List Char) :
    Pieces isSeparator text (splitWhere isSeparator text) := by
  induction text with
  | nil => exact .last (by simp)
  | cons c rest ih =>
    rw [splitWhere]
    split_ifs with hc
    · have hnone : ∀ d ∈ ([] : List Char), isSeparator d = false := by simp
      exact Pieces.more hnone hc ih
    · have hplain : isSeparator c = false := by simpa using hc
      generalize splitWhere isSeparator rest = pieces at ih
      cases ih with
      | last h => exact .last (List.forall_mem_cons.mpr ⟨hplain, h⟩)
      | @more piece _ _ _ h hd hrest =>
        have hpiece : ∀ d ∈ c :: piece, isSeparator d = false := List.forall_mem_cons.mpr ⟨hplain, h⟩
        exact Pieces.more hpiece hd hrest

theorem pieces_iff {isSeparator : Char → Bool} {text : List Char} {pieces : List (List Char)} :
    Pieces isSeparator text pieces ↔ pieces = splitWhere isSeparator text := by
  constructor
  · intro h
    induction h with
    | last h => rw [splitWhere_of_forall h]
    | more h hc _ ih => rw [splitWhere_append hc, splitWhere_of_forall h, ih, List.singleton_append]
  · rintro rfl
    exact pieces_splitWhere isSeparator text

end Routing.Text
