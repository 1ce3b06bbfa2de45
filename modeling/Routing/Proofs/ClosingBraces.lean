import Routing.Proofs.TemplateGrammar

/-! What the reader of a placeholder makes of texts that differ in what stands between some pairs of braces:
it takes both or neither. -/
namespace Routing

namespace Placeholder

/-- The text goes on to the brace that closes the body of a placeholder; `inside` tells whether a pair of
braces is open. -/
def closes : Bool → List Char → Bool
  | _, [] => false
  | _, ['\\'] => false
  | inside, '\\' :: c :: s => c != '\n' && closes inside s
  | inside, '{' :: s => !inside && closes true s
  | inside, '}' :: s => !inside || closes false s
  | inside, _ :: s => closes inside s

section Closing

variable {inside : Bool} {s t : List Char}

theorem Plain.closes_append {text : List Char} (h : Plain text) (inside : Bool) (s : List Char) :
    closes inside (text ++ s) = closes inside s := by
  cases h with
  | @single c hopening hclosing hescape =>
    rw [List.singleton_append, closes.eq_def]
    split <;> simp_all
  | @escaped c hline =>
    rw [List.cons_append, List.singleton_append, closes, bne_iff_ne.mpr hline, Bool.true_and]

theorem closes_plain {items : List (List Char)} (h : ∀ t ∈ items, Plain t) (s : List Char) :
    closes inside (items.flatten ++ s) = closes inside s := by
  induction items with
  | nil => rfl
  | cons text items ih =>
    rw [List.forall_mem_cons] at h
    rw [List.flatten_cons, List.append_assoc, h.1.closes_append, ih h.2]

theorem closes_blanks {blanks : List Char} (h : ∀ c ∈ blanks, Text.isBlank c = true) (s : List Char) :
    closes inside (blanks ++ s) = closes inside s := by
  rw [← flatten_blanks blanks]
  refine closes_plain (fun t ht => ?_) s
  obtain ⟨c, hc, rfl⟩ := List.mem_map.mp ht
  exact plain_of_blank (h c hc)

/-- The reader takes a body as far as it is closed. -/
theorem isSome_body (inside : Bool) (s : List Char) : (body inside s).isSome = closes inside s := by
  fun_induction body inside s with
  | case1 s inside more hclosed =>
    cases inside with
    | true => cases hclosed
    | false =>
      obtain ⟨blanks, hblanks, rfl⟩ := closed?_eq_some hclosed
      rw [closes_blanks hblanks]
      rfl
  | case2 inside => cases inside <;> rfl
  | case3 => rfl
  | case4 inside c more hline hclosed ih =>
    rw [Option.isSome_map, ih, closes, bne_iff_ne.mpr hline, Bool.true_and]
  | case5 inside => cases inside <;> rfl
  | case6 => rfl
  | case7 inside more hinside hclosed ih =>
    rw [Option.isSome_map, ih, closes, eq_false_of_ne_true hinside]
    rfl
  | case8 inside more hclosed ih =>
    cases inside with
    | false => cases hclosed
    | true =>
      rw [Option.isSome_map, ih, closes]
      rfl
  | case9 inside c more hescape hescape' hopening hclosing hclosed ih =>
    have hne : c ≠ '\\' := by
      rintro rfl
      cases more with
      | nil => exact hescape' rfl rfl
      | cons d more => exact hescape d more rfl rfl
    rw [Option.isSome_map, ih]
    exact ((Plain.single hopening hclosing hne).closes_append inside more).symm

/-- Two texts of which the reader of a body takes both or neither, also behind a backslash. -/
structure Alike (s t : List Char) : Prop where
  closes : ∀ inside, Placeholder.closes inside s = Placeholder.closes inside t
  escaped : ∀ inside, Placeholder.closes inside ('\\' :: s) = Placeholder.closes inside ('\\' :: t)

theorem Alike.refl (s : List Char) : Alike s s := ⟨fun _ => rfl, fun _ => rfl⟩

theorem closes_congr (h : Alike s t) (c : Char) (inside : Bool) :
    Placeholder.closes inside (c :: s) = Placeholder.closes inside (c :: t) := by
  by_cases hescape : c = '\\'
  · rw [hescape]
    exact h.escaped inside
  · by_cases hopening : c = '{'
    · rw [hopening, Placeholder.closes, Placeholder.closes, h.closes]
    · by_cases hclosing : c = '}'
      · rw [hclosing, Placeholder.closes, Placeholder.closes, h.closes]
      · have hplain := (Plain.single hopening hclosing hescape).closes_append inside
        exact (hplain s).trans ((h.closes inside).trans (hplain t).symm)

theorem Alike.append (h : Alike s t) (text : List Char) : Alike (text ++ s) (text ++ t) := by
  induction text with
  | nil => exact h
  | cons c text ih =>
    refine ⟨closes_congr ih c, fun inside => ?_⟩
    rw [List.cons_append, List.cons_append, Placeholder.closes, Placeholder.closes, ih.closes]

theorem closes_pair {inner : List (List Char)} (h : ∀ t ∈ inner, Plain t) (s : List Char) :
    closes true (inner.flatten ++ '}' :: s) = closes false s := by
  rw [closes_plain h]
  rfl

/-- Whatever stands in a pair of braces, the reader takes the pair as a whole, and behind a backslash it goes
on to the closing brace. -/
theorem Alike.pair {inner inner' : List (List Char)} (hinner : ∀ t ∈ inner, Plain t)
    (hinner' : ∀ t ∈ inner', Plain t) (h : Alike s t) :
    Alike ('{' :: inner.flatten ++ '}' :: s) ('{' :: inner'.flatten ++ '}' :: t) := by
  refine ⟨fun inside => ?_, fun inside => ?_⟩
  · rw [List.cons_append, List.cons_append, Placeholder.closes, Placeholder.closes, closes_pair hinner,
      closes_pair hinner', h.closes]
  · have hclosed {inner : List (List Char)} (hinner : ∀ t ∈ inner, Plain t) (s : List Char) :
        Placeholder.closes inside ('\\' :: '{' :: inner.flatten ++ '}' :: s) =
          (!inside || Placeholder.closes false s) := by
      rw [List.cons_append, List.cons_append, Placeholder.closes, closes_plain hinner]
      rfl
    exact (hclosed hinner s).trans ((congrArg (!inside || ·) (h.closes false)).trans (hclosed hinner' t).symm)

/-- Nothing, or a brace that opens, comes first. -/
def Opens (s : List Char) : Prop := ∀ c ∈ s.head?, c = '{'

theorem dropWhile_append_of_opens (hs : Opens s) {p : Char → Bool} (hp : p '{' = false) (text : List Char) :
    (text ++ s).dropWhile p = text.dropWhile p ++ s := by
  rw [List.dropWhile_append]
  split_ifs with hempty
  · rw [List.isEmpty_iff.mp hempty, List.nil_append]
    cases s with
    | nil => rfl
    | cons c s =>
      rw [hs c rfl]
      exact List.dropWhile_cons_of_neg (by simp [hp])
  · rfl

theorem takeWhile_append_of_opens (hs : Opens s) {p : Char → Bool} (hp : p '{' = false) (text : List Char) :
    (text ++ s).takeWhile p = text.takeWhile p := by
  induction text with
  | nil =>
    cases s with
    | nil => rfl
    | cons c s =>
      rw [hs c rfl]
      exact List.takeWhile_cons_of_neg (by simp [hp])
  | cons c text ih => rw [List.cons_append, List.takeWhile_cons, List.takeWhile_cons, ih]

theorem closes_dropWhile (inside : Bool) (s : List Char) :
    closes inside (s.dropWhile Text.isBlank) = closes inside s := by
  have hblanks : ∀ c ∈ s.takeWhile Text.isBlank, Text.isBlank c = true :=
    fun c hc => List.mem_takeWhile_imp hc
  rw [← closes_blanks hblanks, List.takeWhile_append_dropWhile]

/-- What comes behind the name of a placeholder. -/
def afterName? (name : List Char) : List Char → Option (Placeholder × List Char)
  | '}' :: rest => some (⟨name, []⟩, rest)
  | ':' :: rest => (body false (rest.dropWhile Text.isBlank)).map fun (p, rest) => (⟨name, p⟩, rest)
  | _ => none

theorem afterName?_eq_none {c : Char} (hclosing : c ≠ '}') (hcolon : c ≠ ':') (name s : List Char) :
    afterName? name (c :: s) = none := by
  unfold afterName?
  split
  · next heq => exact absurd (List.cons.inj heq).1 hclosing
  · next heq => exact absurd (List.cons.inj heq).1 hcolon
  · rfl

theorem isSome_afterName? (h : Alike s t) (hs : Opens s) (ht : Opens t) (name text : List Char) :
    (afterName? name (text ++ s)).isSome = (afterName? name (text ++ t)).isSome := by
  cases text with
  | nil =>
    have hnone {s : List Char} (hs : Opens s) : afterName? name s = none := by
      cases s with
      | nil => rfl
      | cons c s =>
        rw [hs c rfl]
        rfl
    rw [List.nil_append, List.nil_append, hnone hs, hnone ht]
  | cons c text =>
    by_cases hclosing : c = '}'
    · rw [hclosing]
      rfl
    · by_cases hcolon : c = ':'
      · simp only [hcolon, List.cons_append, afterName?, Option.isSome_map, isSome_body, closes_dropWhile]
        exact (h.append text).closes false
      · rw [List.cons_append, List.cons_append, afterName?_eq_none hclosing hcolon,
          afterName?_eq_none hclosing hcolon]

/-- Whether a placeholder begins in a text does not depend on which of two alike texts follows. -/
theorem isSome_read? (h : Alike s t) (hs : Opens s) (ht : Opens t) (text : List Char) :
    (read? (text ++ s)).isSome = (read? (text ++ t)).isSome := by
  have hread {s : List Char} (hs : Opens s) : read? (text ++ s) =
      if !(((text.dropWhile Text.isBlank).takeWhile isNamePart).head?.any isNameStart) then none
      else afterName? ((text.dropWhile Text.isBlank).takeWhile isNamePart)
        (((text.dropWhile Text.isBlank).dropWhile isNamePart).dropWhile Text.isBlank ++ s) := by
    unfold read?
    dsimp only
    rw [dropWhile_append_of_opens hs rfl, dropWhile_append_of_opens hs rfl,
      dropWhile_append_of_opens hs rfl, takeWhile_append_of_opens hs rfl]
    rfl
  rw [hread hs, hread ht]
  split_ifs
  · rfl
  · exact isSome_afterName? h hs ht _ _

end Closing

/-- Between the braces around it, no brace of the text opens or closes anything. -/
def Flat (text : List Char) : Prop :=
  ∃ inner : List (List Char), (∀ t ∈ inner, Plain t) ∧ text = '{' :: inner.flatten ++ ['}']

theorem Spells.isName {text : List Char} {p : Placeholder} (h : Spells text p) : IsName p.name := by
  cases h <;> assumption

theorem spells_name {name : List Char} (h : IsName name) : Spells ('{' :: name ++ ['}']) ⟨name, []⟩ := by
  simpa using @Spells.bare [] name [] (by simp) h

end Placeholder
end Routing
