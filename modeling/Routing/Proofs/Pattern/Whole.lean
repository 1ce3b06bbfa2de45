import Routing.Pattern
import Routing.Proofs.Pattern.Numbering

/-! Matching a whole text: what groups hold after the first way from its start to its end. -/
namespace Routing.Pattern

open Way

/-- What groups matched in the first way from the start of the text to its end. -/
def Expr.whole? (e : Expr) (first : Nat) (text : List Char) : Option Captures :=
  ((e.ways first (Cursor.start text)).find? (·.2.rest.isEmpty)).map Prod.fst

def Captures.shift (n : Nat) (captures : Captures) : Captures :=
  captures.map fun (k, text) => (k + n, text)

namespace Way

theorem andThen_assoc (ways : List Way) (next last : Cursor → List Way) :
    andThen (andThen ways next) last = andThen ways fun d => andThen (next d) last := by
  unfold andThen
  rw [List.flatMap_assoc]
  refine List.flatMap_congr fun way _ => ?_
  obtain ⟨captures, d⟩ := way
  dsimp only
  rw [List.flatMap_map, List.map_flatMap]
  refine List.flatMap_congr fun (more, e) _ => ?_
  rw [List.map_map]
  refine List.map_congr_left fun (rest, f) _ => ?_
  simp

theorem andThen_singleton (c : Cursor) (next : Cursor → List Way) :
    andThen [([], c)] next = next c := by
  simp [andThen]

/-- Of the ways, those that end at the end of the text. -/
theorem andThen_textEnd (ways : List Way) (first : Nat) :
    andThen ways ((Expr.look .textEnd).ways first) = ways.filter (·.2.rest.isEmpty) := by
  induction ways with
  | nil => rfl
  | cons way ways ih =>
    obtain ⟨captures, d⟩ := way
    have hcons : andThen ((captures, d) :: ways) ((Expr.look .textEnd).ways first) =
        (((Expr.look .textEnd).ways first d).map fun way => (captures ++ way.1, way.2)) ++
          andThen ways ((Expr.look .textEnd).ways first) := rfl
    have hhere : (Expr.look .textEnd).ways first d = if d.rest.isEmpty then [([], d)] else [] := rfl
    rw [hcons, ih, hhere, List.filter_cons]
    by_cases hend : d.rest.isEmpty = true
    · simp only [if_pos hend]
      simp
    · simp only [if_neg hend]
      rfl

end Way

namespace Expr

theorem ways_seqAll_append (es es' : List Expr) (first : Nat) (c : Cursor) :
    (seqAll (es ++ es')).ways first c =
      andThen ((seqAll es).ways first c) ((seqAll es').ways (first + (es.map slots).sum)) := by
  induction es generalizing first c with
  | nil => exact (andThen_singleton c _).symm
  | cons e es ih =>
    rw [List.cons_append, ways_seqAll_cons, ways_seqAll_cons, andThen_assoc]
    refine andThen_congr fun way _ => ?_
    rw [ih, List.map_cons, List.sum_cons, Nat.add_assoc]

theorem whole?_textTo {e : Expr} {first : Nat} {text : List Char} {way : Way}
    (h : way ∈ e.ways first (Cursor.start text)) (hend : way.2.rest.isEmpty = true) :
    (Cursor.start text).textTo way.2 = text := by
  have hrest := Cursor.rest_eq_textTo (e.endAhead_ways first _ way h)
  rw [List.isEmpty_iff.mp hend, List.append_nil] at hrest
  exact hrest.symm

theorem ways_anchored (es : List Expr) (first : Nat) (c : Cursor) :
    (seqAll (.look .textStart :: es ++ [.look .textEnd])).ways first c =
      if c.before.isNone then ((seqAll es).ways first c).filter (·.2.rest.isEmpty) else [] := by
  have hstart : (Expr.look .textStart).ways first c = if c.before.isNone then [([], c)] else [] := rfl
  rw [List.cons_append, ways_seqAll_cons, hstart]
  split_ifs
  · rw [andThen_singleton]
    exact (ways_seqAll_append es _ _ c).trans (andThen_textEnd _ _)
  · rfl

theorem answer_some (ways : List Way) :
    answer ways (fun _ => some []) = ways.head?.map Prod.fst := by
  cases ways with
  | nil => rfl
  | cons way ways =>
    obtain ⟨captures, d⟩ := way
    rw [answer_cons]
    simp

theorem before_go {pos : Nat} {before : Option Char} {rest : List Char} {d : Cursor}
    (hbefore : before.isSome = true) (h : d ∈ Cursor.ahead.go pos before rest) :
    d.before.isSome = true := by
  induction rest generalizing pos before with
  | nil =>
    rw [Cursor.ahead.go, List.mem_singleton] at h
    rw [h]
    exact hbefore
  | cons x rest ih =>
    rw [Cursor.ahead.go, List.mem_cons] at h
    rcases h with rfl | h
    · exact hbefore
    · exact ih rfl h

/-- Only the start of a text has no character before it. -/
theorem ahead_start (text : List Char) :
    ∃ later, (Cursor.start text).ahead = Cursor.start text :: later ∧
      ∀ d ∈ later, d.before.isSome = true := by
  cases text with
  | nil => exact ⟨[], rfl, by simp⟩
  | cons x rest => exact ⟨_, rfl, fun d hd => before_go rfl hd⟩

/-- An anchored expression is matched with the whole text. -/
theorem search_anchored (es : List Expr) (text : List Char) :
    (seqAll (.look .textStart :: es ++ [.look .textEnd])).search (Cursor.start text) =
      ((seqAll es).whole? 1 text).map (· ++ [(0, text)]) := by
  have hrun (c : Cursor) :
      (group (seqAll (.look .textStart :: es ++ [.look .textEnd]))).run 0 c (fun _ => some []) =
        if c.before.isNone then
          (((seqAll es).ways 1 c).find? (·.2.rest.isEmpty)).map fun way =>
            way.1 ++ [(0, c.textTo way.2)]
        else none := by
    rw [run_eq_answer, answer_some, ways, Nat.zero_add, ways_anchored]
    split_ifs
    · rw [List.head?_map, List.head?_filter, Option.map_map]
      rfl
    · rfl
  obtain ⟨later, hahead, hlater⟩ := ahead_start text
  have hnone : later.findSome? (fun c =>
      (group (seqAll (.look .textStart :: es ++ [.look .textEnd]))).run 0 c fun _ => some []) =
        none := by
    rw [List.findSome?_eq_none_iff]
    intro d hd
    rw [hrun, if_neg]
    simpa using Option.isSome_iff_ne_none.mp (hlater d hd)
  have hbefore : (Cursor.start text).before.isNone = true := rfl
  unfold search
  rw [hahead, List.findSome?_cons, hnone, hrun, if_pos hbefore]
  unfold whole?
  cases hfind : ((seqAll es).ways 1 (Cursor.start text)).find? (·.2.rest.isEmpty) with
  | none => rfl
  | some way =>
    have hend := List.find?_some hfind
    simp [whole?_textTo (List.mem_of_find?_eq_some hfind) hend]

theorem whole?_range {e : Expr} {first : Nat} {text : List Char} {captures : Captures}
    (h : e.whole? first text = some captures) :
    ∀ p ∈ captures, first ≤ p.1 ∧ p.1 < first + e.slots := by
  obtain ⟨way, hway, rfl⟩ := Option.map_eq_some_iff.mp h
  exact e.captured_range first _ way (List.mem_of_find?_eq_some hway)

theorem whole?_shift (e : Expr) (first n : Nat) (text : List Char) :
    e.whole? (first + n) text = (e.whole? first text).map (Captures.shift n) := by
  unfold whole?
  rw [ways_shift, List.find?_map, Option.map_map, Option.map_map]
  rfl

/-- A preferred alternative counts, if it can be matched. -/
theorem whole?_altAll_cons (e e' : Expr) (es : List Expr) (first : Nat) (text : List Char) :
    (altAll (e :: e' :: es)).whole? first text =
      (e.whole? first text).or ((altAll (e' :: es)).whole? (first + e.slots) text) := by
  unfold whole?
  rw [ways_altAll_cons, List.find?_append, Option.map_or]

/-- Alternatives that cannot be matched only take numbers. -/
theorem whole?_altAll_append {before : List Expr} {text : List Char}
    (h : ∀ e ∈ before, e.whole? 1 text = none) (e : Expr) (after : List Expr) (n : Nat) :
    (altAll (before ++ e :: after)).whole? (1 + n) text =
      (altAll (e :: after)).whole? (1 + (n + (before.map slots).sum)) text := by
  induction before generalizing n with
  | nil => rfl
  | cons e' before ih =>
    rw [List.forall_mem_cons] at h
    obtain ⟨next, rest, hrest⟩ := List.exists_cons_of_ne_nil
      (show before ++ e :: after ≠ [] from List.append_ne_nil_of_right_ne_nil _ (List.cons_ne_nil _ _))
    rw [List.cons_append, hrest, whole?_altAll_cons, whole?_shift, h.1, Option.map_none,
      Option.none_or, ← hrest, Nat.add_assoc, ih h.2, List.map_cons, List.sum_cons, Nat.add_assoc]

theorem whole?_altAll_none {es : List Expr} (hne : es ≠ []) {text : List Char}
    (h : ∀ e ∈ es, e.whole? 1 text = none) : (altAll es).whole? 1 text = none := by
  have hsplit : es = es.dropLast ++ [es.getLast hne] := (List.dropLast_concat_getLast hne).symm
  have hbefore : ∀ e ∈ es.dropLast, e.whole? 1 text = none :=
    fun e he => h e (List.dropLast_subset es he)
  have hall := whole?_altAll_append hbefore (es.getLast hne) [] 0
  rw [← hsplit, Nat.add_zero] at hall
  rw [hall, altAll, whole?_shift, h _ (List.getLast_mem hne)]
  rfl

/-- The first alternative that can be matched counts. Its groups stand behind all numbers that the
alternatives before it take. -/
theorem whole?_altAll_first {before : List Expr} {text : List Char}
    (h : ∀ e ∈ before, e.whole? 1 text = none) {e : Expr} {captures : Captures}
    (he : e.whole? 1 text = some captures) (after : List Expr) :
    (altAll (before ++ e :: after)).whole? 1 text =
      some (captures.shift (before.map slots).sum) := by
  have hall := whole?_altAll_append h e after 0
  have hhere (n : Nat) : e.whole? (1 + n) text = some (captures.shift n) := by
    rw [whole?_shift, he, Option.map_some]
  rw [Nat.add_zero, Nat.zero_add] at hall
  rw [hall]
  cases after with
  | nil => rw [altAll, hhere]
  | cons next after => rw [whole?_altAll_cons, hhere, Option.some_or]

/-- Empty groups hold the empty text wherever they stand. -/
theorem ways_emptyGroups (n first : Nat) (c : Cursor) :
    (seqAll (List.replicate n (group empty))).ways first c =
      [((List.range' first n).map (·, []), c)] := by
  induction n generalizing first with
  | zero => rfl
  | succ n ih =>
    have hgroup : (group empty).ways first c = [([(first, [])], c)] := by
      simp [ways, Cursor.textTo]
    rw [List.replicate_succ, ways_seqAll_cons, hgroup]
    simp [andThen, ih, List.range'_succ, slots]

theorem whole?_padded (e : Expr) (n first : Nat) (text : List Char) :
    (seqAll (e :: List.replicate n (group empty))).whole? first text =
      (e.whole? first text).map (· ++ (List.range' (first + e.slots) n).map (·, [])) := by
  have hways : (seqAll (e :: List.replicate n (group empty))).ways first (Cursor.start text) =
      (e.ways first (Cursor.start text)).map fun way =>
        (way.1 ++ (List.range' (first + e.slots) n).map (·, []), way.2) := by
    rw [ways_seqAll_cons, funext (ways_emptyGroups n _)]
    exact List.map_eq_flatMap.symm
  unfold whole?
  rw [hways, List.find?_map, Option.map_map, Option.map_map]
  rfl

end Expr

namespace Captures

theorem isSome_group? {captures : Captures} {number : Nat} :
    (captures.group? number).isSome ↔ ∃ p ∈ captures, p.1 = number := by
  unfold group?
  rw [Option.isSome_map, List.lookup_isSome_iff]
  refine exists_congr fun p => ?_
  rw [List.mem_reverse, beq_iff_eq, eq_comm]

theorem group?_eq_none {captures : Captures} {number : Nat} (h : ∀ p ∈ captures, p.1 ≠ number) :
    captures.group? number = none := by
  rw [← Option.not_isSome_iff_eq_none, isSome_group?]
  rintro ⟨p, hp, he⟩
  exact h p hp he

theorem group?_append (captures more : Captures) (number : Nat) :
    group? (captures ++ more) number = (more.group? number).or (captures.group? number) := by
  unfold group?
  rw [List.reverse_append, List.lookup_append, Option.map_or]

theorem group?_append_of_ne (captures : Captures) {more : Captures} {number : Nat}
    (h : ∀ p ∈ more, p.1 ≠ number) : group? (captures ++ more) number = captures.group? number := by
  rw [group?_append, group?_eq_none h, Option.none_or]

theorem group?_shift (captures : Captures) (n number : Nat) :
    (captures.shift n).group? (number + n) = captures.group? number := by
  unfold group? shift
  rw [← List.map_reverse]
  congr 1
  induction captures.reverse with
  | nil => rfl
  | cons p captures ih =>
    obtain ⟨k, text⟩ := p
    rw [List.map_cons, List.lookup_cons, List.lookup_cons, ih]
    by_cases hk : number = k
    · simp [hk]
    · have hk' : number + n ≠ k + n := by omega
      rw [beq_false_of_ne hk, beq_false_of_ne hk']

end Captures
theorem captures?_anchored {p : Pattern} {es : List Expr}
    (h : p.expr = .seqAll (.look .textStart :: es ++ [.look .textEnd])) (text : String) :
    p.captures? text = ((Expr.seqAll es).whole? 1 text.toList).map fun captures =>
      (List.range p.groupCount).map fun i => captures.group? (i + 1) := by
  unfold captures?
  rw [h, Expr.search_anchored, Option.map_map]
  congr 1
  funext captures
  refine List.map_congr_left fun i _ => ?_
  have hne : ∀ p ∈ [(0, text.toList)], p.1 ≠ i + 1 := by simp
  exact Captures.group?_append_of_ne captures hne

end Routing.Pattern
