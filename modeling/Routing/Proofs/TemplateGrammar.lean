import Mathlib.Data.List.DropRight
import Mathlib.Tactic.SplitIfs
import Routing.Template

/-! The grammar of placeholders, apart from their reader, and that the reader takes a text if and only if
the grammar spells it. -/
namespace Routing.Placeholder

/-- A character that is no brace and no backslash, or a backslash with the character it escapes. -/
inductive Plain : List Char → Prop
  | single {c : Char} (opening : c ≠ '{') (closing : c ≠ '}') (escape : c ≠ '\\') : Plain [c]
  | escaped {c : Char} (line : c ≠ '\n') : Plain ['\\', c]

/-- What the body of a placeholder is made of: plain items, and pairs of braces around plain items. -/
inductive Item : List Char → Prop
  | plain {text : List Char} (h : Plain text) : Item text
  | pair {inner : List (List Char)} (h : ∀ t ∈ inner, Plain t) : Item ('{' :: inner.flatten ++ ['}'])

/-- The item is a blank that is not escaped. -/
def isBlankItem : List Char → Bool
  | [c] => Text.isBlank c
  | _ => false

/-- The items without the blanks at both ends. -/
def trimmed (items : List (List Char)) : List (List Char) :=
  (items.dropWhile isBlankItem).rdropWhile isBlankItem

structure IsName (name : List Char) : Prop where
  first : name.head?.any isNameStart = true
  part : ∀ c ∈ name, isNamePart c = true

/-- A text that is a placeholder. -/
inductive Spells : List Char → Placeholder → Prop
  | bare {before name after : List Char} (blanks : ∀ c ∈ before ++ after, Text.isBlank c = true)
    (isName : IsName name) :
    Spells ('{' :: before ++ name ++ after ++ ['}']) ⟨name, []⟩
  | withBody {before name after : List Char} {items : List (List Char)}
    (blanks : ∀ c ∈ before ++ after, Text.isBlank c = true) (isName : IsName name)
    (body : ∀ t ∈ items, Item t) :
    Spells ('{' :: before ++ name ++ after ++ ':' :: items.flatten ++ ['}'])
      ⟨name, (trimmed items).flatten⟩

theorem not_blank_of_namePart {c : Char} (h : isNamePart c = true) : Text.isBlank c = false := by
  have hcode : 48 ≤ c.toNat ∧ c.toNat ≤ 122 := by
    unfold isNamePart at h
    rw [Bool.or_eq_true, beq_iff_eq] at h
    rcases h with h | rfl
    · have hval : c.val.toNat = c.toNat := rfl
      change (decide (65 ≤ c.val ∧ c.val ≤ 90) || (decide (97 ≤ c.val) && decide (c.val ≤ 122)) ||
        (decide (48 ≤ c.val) && decide (c.val ≤ 57))) = true at h
      simp [UInt32.le_iff_toNat_le] at h
      omega
    · decide
  unfold Text.isBlank
  simp
  omega

section Body

variable {items : List (List Char)} {rest : List Char}

theorem Item.blank_or_head {text : List Char} (h : Item text) :
    (isBlankItem text = true ∧ ∃ c, text = [c] ∧ Text.isBlank c = true) ∨
      isBlankItem text = false ∧ ∃ c more, text = c :: more ∧ c ≠ '}' ∧ Text.isBlank c = false := by
  cases h with
  | plain h =>
    cases h with
    | @single c _ hclosing _ =>
      cases hc : Text.isBlank c with
      | true => exact .inl ⟨hc, c, rfl, hc⟩
      | false => exact .inr ⟨hc, c, [], rfl, hclosing, hc⟩
    | @escaped c _ => exact .inr ⟨rfl, '\\', [c], rfl, by decide, rfl⟩
  | @pair inner _ =>
    refine .inr ⟨?_, '{', inner.flatten ++ ['}'], rfl, by decide, rfl⟩
    cases inner.flatten <;> rfl

theorem Item.closed?_append {text : List Char} (h : Item text) (s : List Char) :
    closed? (text ++ s) = if isBlankItem text then closed? s else none := by
  rcases h.blank_or_head with ⟨hitem, c, rfl, hblank⟩ | ⟨hitem, c, more, rfl, hne, hblank⟩
  · unfold closed?
    rw [hitem, if_pos rfl, List.singleton_append, List.dropWhile_cons_of_pos hblank]
  · unfold closed?
    rw [hitem, if_neg Bool.false_ne_true, List.cons_append,
      List.dropWhile_cons_of_neg (by simp [hblank])]
    split
    · next heq => exact absurd (List.cons.inj heq).1 hne
    · rfl

/-- A placeholder is closed where only blanks are left of its body. -/
theorem closed?_items (h : ∀ t ∈ items, Item t) :
    closed? (items.flatten ++ '}' :: rest) = if items.all isBlankItem then some rest else none := by
  induction items with
  | nil => rfl
  | cons text items ih =>
    rw [List.forall_mem_cons] at h
    rw [List.flatten_cons, List.append_assoc, h.1.closed?_append, ih h.2, List.all_cons]
    cases isBlankItem text <;> simp

/-- A plain item stands for itself, unless the placeholder is closed before it. -/
theorem Plain.body_append {text : List Char} (h : Plain text) {inside : Bool} (s : List Char)
    (hopen : (if inside then none else closed? (text ++ s)) = none) :
    body inside (text ++ s) = (body inside s).map fun (p, rest) => (text ++ p, rest) := by
  rw [body.eq_def, hopen]
  cases h with
  | @single c hopening hclosing hescape =>
    dsimp only [List.cons_append, List.nil_append]
    split
    · next heq => cases heq
    · next heq => exact absurd (List.cons.inj heq).1 hescape
    · next heq => exact absurd (List.cons.inj heq).1 hescape
    · next heq => exact absurd (List.cons.inj heq).1 hopening
    · next heq => exact absurd (List.cons.inj heq).1 hclosing
    · next heq =>
      cases heq
      rfl
  | escaped hline =>
    exact if_neg hline

theorem body_inside {inner : List (List Char)} (h : ∀ t ∈ inner, Plain t) (s : List Char) :
    body true (inner.flatten ++ '}' :: s) =
      (body false s).map fun (p, rest) => (inner.flatten ++ '}' :: p, rest) := by
  induction inner with
  | nil => rw [List.flatten_nil, List.nil_append, body.eq_def]; rfl
  | cons text inner ih =>
    rw [List.forall_mem_cons] at h
    rw [List.flatten_cons, List.append_assoc, h.1.body_append _ (if_pos rfl), ih h.2, Option.map_map]
    congr 1
    funext ⟨p, rest⟩
    simp

theorem Item.body_append {text : List Char} (h : Item text) (s : List Char)
    (hopen : closed? (text ++ s) = none) :
    body false (text ++ s) = (body false s).map fun (p, rest) => (text ++ p, rest) := by
  cases h with
  | plain h => exact h.body_append s hopen
  | @pair inner hinner =>
    have hinside := body_inside hinner s
    rw [body.eq_def]
    simp only [Bool.false_eq_true, if_false]
    rw [hopen]
    simp only [List.cons_append, List.append_assoc, List.nil_append, hinside, Option.map_map]
    congr 1

theorem rdropWhile_cons {text : List Char} {items : List (List Char)}
    (h : ¬(text :: items).all isBlankItem = true) :
    (text :: items).rdropWhile isBlankItem = text :: items.rdropWhile isBlankItem := by
  unfold List.rdropWhile
  rw [List.reverse_cons, List.dropWhile_append]
  split_ifs with hempty
  · have hblank : items.all isBlankItem = true := by
      rw [List.isEmpty_iff, List.dropWhile_eq_nil_iff] at hempty
      rw [List.all_eq_true]
      exact fun t ht => hempty t (List.mem_reverse.mpr ht)
    have htext : ¬isBlankItem text = true := fun ht => h (by rw [List.all_cons, ht, hblank]; rfl)
    rw [List.isEmpty_iff.mp hempty, List.dropWhile_cons_of_neg htext]
    rfl
  · rw [List.reverse_append]
    rfl

/-- The body of a placeholder is read up to the first brace that is not part of an item. -/
theorem body_items (h : ∀ t ∈ items, Item t) :
    body false (items.flatten ++ '}' :: rest) = some ((items.rdropWhile isBlankItem).flatten, rest) := by
  induction items with
  | nil => rw [body.eq_def]; rfl
  | cons text items ih =>
    have hclosed : closed? ((text :: items).flatten ++ '}' :: rest) = _ := closed?_items h
    by_cases hblank : (text :: items).all isBlankItem = true
    · have hnil : (text :: items).rdropWhile isBlankItem = [] :=
        List.rdropWhile_eq_nil_iff.mpr (List.all_eq_true.mp hblank)
      rw [if_pos hblank] at hclosed
      rw [hnil, body.eq_def]
      simp only [Bool.false_eq_true, if_false, hclosed]
      rfl
    · rw [if_neg hblank] at hclosed
      rw [List.forall_mem_cons] at h
      rw [List.flatten_cons, List.append_assoc] at hclosed ⊢
      rw [h.1.body_append _ hclosed, ih h.2, rdropWhile_cons hblank]
      rfl

theorem closed?_eq_some {s : List Char} (h : closed? s = some rest) :
    ∃ blanks, (∀ c ∈ blanks, Text.isBlank c = true) ∧ s = blanks ++ '}' :: rest := by
  unfold closed? at h
  split at h
  · next more hmore =>
    cases h
    refine ⟨s.takeWhile Text.isBlank, fun c hc => List.mem_takeWhile_imp hc, ?_⟩
    rw [← hmore, List.takeWhile_append_dropWhile]
  · cases h

theorem plain_of_blank {c : Char} (h : Text.isBlank c = true) : Plain [c] := by
  refine .single ?_ ?_ ?_ <;> rintro rfl <;> revert h <;> decide

theorem plain_of_namePart {c : Char} (h : isNamePart c = true) : Plain [c] := by
  refine .single ?_ ?_ ?_ <;> rintro rfl <;> revert h <;> decide

theorem Item.of_plain {text : List Char} (h : ∀ c ∈ text, Plain [c]) : ∀ t ∈ text.map ([·]), Item t := by
  intro t ht
  obtain ⟨c, hc, rfl⟩ := List.mem_map.mp ht
  exact .plain (h c hc)

theorem Item.of_blanks {blanks : List Char} (h : ∀ c ∈ blanks, Text.isBlank c = true) :
    ∀ t ∈ blanks.map ([·]), Item t :=
  .of_plain fun c hc => plain_of_blank (h c hc)

theorem flatten_blanks (blanks : List Char) : (blanks.map ([·])).flatten = blanks := by
  rw [← List.flatMap_def, List.flatMap_singleton']

/-- The text goes on with items up to a closing brace. Inside a pair of braces, the rest of the pair comes
first. -/
def GoesOn (inside : Bool) (s rest : List Char) : Prop :=
  ∃ inner items : List (List Char), (∀ t ∈ inner, Plain t) ∧ (∀ t ∈ items, Item t) ∧
    s = (if inside then inner.flatten ++ ['}'] else []) ++ items.flatten ++ '}' :: rest

theorem GoesOn.plain {inside : Bool} {text s : List Char} (h : GoesOn inside s rest)
    (hplain : Plain text) : GoesOn inside (text ++ s) rest := by
  obtain ⟨inner, items, hinner, hitems, rfl⟩ := h
  cases inside with
  | false =>
    exact ⟨inner, text :: items, hinner, List.forall_mem_cons.mpr ⟨.plain hplain, hitems⟩, by simp⟩
  | true => exact ⟨text :: inner, items, List.forall_mem_cons.mpr ⟨hplain, hinner⟩, hitems, by simp⟩

theorem goesOn_of_body {inside : Bool} {s pattern rest : List Char}
    (h : body inside s = some (pattern, rest)) : GoesOn inside s rest := by
  fun_induction body inside s generalizing pattern rest with
  | case1 s inside more hclosed =>
    cases h
    cases inside with
    | true => cases hclosed
    | false =>
      obtain ⟨blanks, hblanks, rfl⟩ := closed?_eq_some hclosed
      refine ⟨[], blanks.map ([·]), by simp, .of_blanks hblanks, ?_⟩
      rw [flatten_blanks]
      rfl
  | case2 | case3 | case5 | case6 => cases h
  | case4 inside c more hline hclosed ih =>
    obtain ⟨⟨p, rest'⟩, hbody, heq⟩ := Option.map_eq_some_iff.mp h
    cases heq
    exact (ih hbody).plain (.escaped hline)
  | case7 inside more hinside hclosed ih =>
    obtain ⟨⟨p, rest'⟩, hbody, heq⟩ := Option.map_eq_some_iff.mp h
    cases heq
    obtain ⟨inner, items, hinner, hitems, rfl⟩ := ih hbody
    refine ⟨[], ('{' :: inner.flatten ++ ['}']) :: items, by simp, ?_, ?_⟩
    · exact List.forall_mem_cons.mpr ⟨.pair hinner, hitems⟩
    · rw [if_neg hinside]
      simp
  | case8 inside more hclosed ih =>
    obtain ⟨⟨p, rest'⟩, hbody, heq⟩ := Option.map_eq_some_iff.mp h
    cases heq
    cases inside with
    | false => cases hclosed
    | true =>
      obtain ⟨inner, items, -, hitems, rfl⟩ := ih hbody
      exact ⟨[], items, by simp, hitems, by simp⟩
  | case9 inside c more hescape hescape' hopening hclosing hclosed ih =>
    obtain ⟨⟨p, rest'⟩, hbody, heq⟩ := Option.map_eq_some_iff.mp h
    cases heq
    have hne : c ≠ '\\' := by
      rintro rfl
      cases more with
      | nil => exact hescape' rfl rfl
      | cons d more => exact hescape d more rfl rfl
    exact (ih hbody).plain (.single hopening hclosing hne)

theorem dropWhile_items (h : ∀ t ∈ items, Item t) :
    (items.flatten ++ '}' :: rest).dropWhile Text.isBlank =
      (items.dropWhile isBlankItem).flatten ++ '}' :: rest := by
  induction items with
  | nil => rfl
  | cons text items ih =>
    rw [List.forall_mem_cons] at h
    rcases h.1.blank_or_head with ⟨hitem, c, rfl, hblank⟩ | ⟨hitem, c, more, rfl, -, hblank⟩
    · rw [List.dropWhile_cons_of_pos hitem, ← ih h.2]
      exact List.dropWhile_cons_of_pos hblank
    · rw [List.dropWhile_cons_of_neg (by simp [hitem])]
      exact List.dropWhile_cons_of_neg (by simp [hblank])

end Body

section Reading

variable {before name s t rest : List Char} {p : Placeholder}

/-- Behind its name, a placeholder ends or a body follows. -/
theorem read?_name (hblanks : ∀ c ∈ before, Text.isBlank c = true) (hname : IsName name)
    (ht : ∀ c ∈ t.head?, isNamePart c = false) :
    read? (before ++ name ++ t) =
      match t.dropWhile Text.isBlank with
      | '}' :: rest => some (⟨name, []⟩, rest)
      | ':' :: rest =>
        (body false (rest.dropWhile Text.isBlank)).map fun (p, rest) => (⟨name, p⟩, rest)
      | _ => none := by
  have hstart : (before ++ name ++ t).dropWhile Text.isBlank = name ++ t := by
    rw [List.append_assoc, List.dropWhile_append_of_pos hblanks]
    cases name with
    | nil => exact absurd hname.first Bool.false_ne_true
    | cons c name =>
      have hpart := hname.part c List.mem_cons_self
      exact List.dropWhile_cons_of_neg (by simp [not_blank_of_namePart hpart])
  have htake : (name ++ t).takeWhile isNamePart = name := by
    rw [List.takeWhile_append_of_pos hname.part]
    cases t with
    | nil => simp
    | cons c t =>
      have hc := ht c rfl
      rw [List.takeWhile_cons_of_neg (by simp [hc]), List.append_nil]
  have hdrop : (name ++ t).dropWhile isNamePart = t := by
    rw [List.dropWhile_append_of_pos hname.part]
    cases t with
    | nil => rfl
    | cons c t =>
      have hc := ht c rfl
      exact List.dropWhile_cons_of_neg (by simp [hc])
  unfold read?
  dsimp only
  rw [hstart, htake, hdrop, hname.first]
  rfl

theorem head_after {after : List Char} (hblanks : ∀ c ∈ after, Text.isBlank c = true) {d : Char}
    (hd : isNamePart d = false) (s : List Char) :
    ∀ c ∈ (after ++ d :: s).head?, isNamePart c = false := by
  intro c hc
  cases after with
  | nil =>
    cases hc
    exact hd
  | cons first after =>
    cases hc
    by_contra hpart
    have hblank := hblanks c List.mem_cons_self
    rw [not_blank_of_namePart (by simpa using hpart)] at hblank
    cases hblank

theorem read?_of_spells {text : List Char} (h : Spells text p) (rest : List Char) :
    ∃ more, text = '{' :: more ∧ read? (more ++ rest) = some (p, rest) := by
  cases h with
  | @bare before name after hblanks hname =>
    rw [List.forall_mem_append] at hblanks
    refine ⟨before ++ name ++ after ++ ['}'], by simp, ?_⟩
    have htext : before ++ name ++ after ++ ['}'] ++ rest = before ++ name ++ (after ++ '}' :: rest) := by
      simp
    rw [htext, read?_name hblanks.1 hname (head_after hblanks.2 rfl rest),
      List.dropWhile_append_of_pos hblanks.2]
    rfl
  | @withBody before name after items hblanks hname hitems =>
    rw [List.forall_mem_append] at hblanks
    refine ⟨before ++ name ++ after ++ ':' :: items.flatten ++ ['}'], by simp, ?_⟩
    have htext : before ++ name ++ after ++ ':' :: items.flatten ++ ['}'] ++ rest =
        before ++ name ++ (after ++ ':' :: (items.flatten ++ '}' :: rest)) := by simp
    have hkept : ∀ t ∈ items.dropWhile isBlankItem, Item t := fun t ht =>
      hitems t ((List.dropWhile_sublist _).subset ht)
    rw [htext, read?_name hblanks.1 hname (head_after hblanks.2 rfl _),
      List.dropWhile_append_of_pos hblanks.2]
    change Option.map _ (body false ((items.flatten ++ '}' :: rest).dropWhile Text.isBlank)) = _
    rw [dropWhile_items hitems, body_items hkept]
    rfl

theorem Spells.ne_nil {text : List Char} (h : Spells text p) : text ≠ [] := by
  obtain ⟨more, rfl, -⟩ := read?_of_spells h []
  exact List.cons_ne_nil '{' more

theorem spells_of_read? (h : read? s = some (p, rest)) :
    ∃ more, Spells ('{' :: more) p ∧ s = more ++ rest := by
  let before := s.takeWhile Text.isBlank
  let name := (s.dropWhile Text.isBlank).takeWhile isNamePart
  let t := (s.dropWhile Text.isBlank).dropWhile isNamePart
  let after := t.takeWhile Text.isBlank
  have hs : s = before ++ name ++ t := by
    rw [List.append_assoc, List.takeWhile_append_dropWhile, List.takeWhile_append_dropWhile]
  have hblanks : ∀ c ∈ before ++ after, Text.isBlank c = true := by
    rw [List.forall_mem_append]
    exact ⟨fun c hc => List.mem_takeWhile_imp hc, fun c hc => List.mem_takeWhile_imp hc⟩
  have ht : t = after ++ t.dropWhile Text.isBlank := List.takeWhile_append_dropWhile.symm
  have hread := h
  unfold read? at hread
  dsimp only at hread
  split_ifs at hread with hfirst
  have hname : IsName name := ⟨by simpa using hfirst, fun c hc => List.mem_takeWhile_imp hc⟩
  split at hread
  · next more hmore =>
    cases hread
    refine ⟨before ++ name ++ after ++ ['}'], .bare hblanks hname, ?_⟩
    rw [hmore] at ht
    rw [hs, ht]
    simp
  · next more hmore =>
    obtain ⟨⟨q, rest'⟩, hbody, heq⟩ := Option.map_eq_some_iff.mp hread
    cases heq
    obtain ⟨_, items, -, hitems, hmore'⟩ := goesOn_of_body hbody
    let blanks := more.takeWhile Text.isBlank
    let all := blanks.map ([·]) ++ items
    have hall : ∀ t ∈ all, Item t := by
      rw [List.forall_mem_append]
      exact ⟨.of_blanks fun c hc => List.mem_takeWhile_imp hc, hitems⟩
    have hbodyText : more = all.flatten ++ '}' :: rest' := by
      have hsplit : blanks ++ more.dropWhile Text.isBlank = more := List.takeWhile_append_dropWhile
      rw [hmore'] at hsplit
      rw [List.flatten_append, flatten_blanks, ← hsplit]
      simp
    have hspells := Spells.withBody hblanks hname hall
    have htext : s = before ++ name ++ after ++ ':' :: all.flatten ++ ['}'] ++ rest' := by
      rw [hmore, hbodyText] at ht
      rw [hs, ht]
      simp
    obtain ⟨more', hmore', hread'⟩ := read?_of_spells hspells rest'
    have hinner : before ++ name ++ after ++ ':' :: all.flatten ++ ['}'] = more' := by
      simpa using hmore'
    rw [← hinner, ← htext, h] at hread'
    cases hread'
    exact ⟨_, hspells, htext⟩
  · cases hread

/-- Where a placeholder begins, it ends in one place only: no placeholder goes on where another one is
closed. -/
theorem spells_unique {text text' rest' : List Char} {p' : Placeholder} (h : Spells text p)
    (h' : Spells text' p') (heq : text ++ rest = text' ++ rest') :
    text = text' ∧ p = p' ∧ rest = rest' := by
  obtain ⟨more, rfl, hread⟩ := read?_of_spells h rest
  obtain ⟨more', rfl, hread'⟩ := read?_of_spells h' rest'
  have hmore : more ++ rest = more' ++ rest' := (List.cons.inj heq).2
  rw [hmore, hread'] at hread
  cases hread
  exact ⟨congrArg _ (List.append_cancel_right hmore), rfl, rfl⟩

end Reading

end Routing.Placeholder
