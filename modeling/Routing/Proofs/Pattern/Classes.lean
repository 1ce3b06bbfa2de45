import Routing.Proofs.Pattern.Escapes

/-! Classes in brackets in a longer text. -/
namespace Routing.Pattern

variable {flags : Flags}

namespace Class

theorem posix?_names {name : String} {s : CharSet} (h : CharSet.posix? name = some s) :
    ')' ∉ name.toList := by
  unfold CharSet.posix? at h
  split at h
  case h_15 => cases h
  all_goals decide

/-- The class whose name ends at the next colon, if a bracket follows there. -/
def named? (s : List Char) : Option (CharSet × List Char) :=
  match s.dropWhile (· != ':') with
  | ':' :: ']' :: after => (CharSet.posix? (String.ofList (s.takeWhile (· != ':')))).map (·, after)
  | _ => none

/-- No name holds a parenthesis, so that one behind the text makes no name of it. -/
theorem named?_append (s t : List Char) :
    named? (s ++ ')' :: t) = (named? s).map fun (set, rest) => (set, rest ++ ')' :: t) := by
  unfold named?
  by_cases hnil : s.dropWhile (· != ':') = []
  · have hall : ∀ c ∈ s, (c != ':') = true := List.dropWhile_eq_nil_iff.mp hnil
    rw [hnil, List.takeWhile_append_of_pos hall]
    dsimp only [Option.map_none]
    split
    · rw [Option.map_eq_none_iff, Option.eq_none_iff_forall_ne_some]
      intro set hset
      exact posix?_names hset (by simp)
    · rfl
  · rw [dropWhile_append_of_ne_nil hnil]
    rw [takeWhile_append_of_ne_nil hnil]
    match s.dropWhile (· != ':') with
    | [] => simp
    | [c] => simp
    | c :: d :: rest =>
      by_cases hend : c = ':' ∧ d = ']'
      · obtain ⟨rfl, rfl⟩ := hend
        simp only [List.cons_append, Option.map_map]
        rfl
      · simp only [List.cons_append]
        split
        · next he =>
          simp only [List.cons.injEq] at he
          exact absurd ⟨he.1, he.2.1⟩ hend
        · split
          · next he =>
            simp only [List.cons.injEq] at he
            exact absurd ⟨he.1, he.2.1⟩ hend
          · rfl

/-- Whether a name is negated, and what follows the sign. -/
def negation : List Char → Bool × List Char
  | '^' :: rest => (true, rest)
  | rest => (false, rest)

theorem negation_append (s t : List Char) :
    negation (s ++ ')' :: t) = ((negation s).1, (negation s).2 ++ ')' :: t) := by
  cases s with
  | nil => rfl
  | cons c s => by_cases hc : c = '^' <;> simp [negation, hc]

theorem posix?_colon (flags : Flags) (s : List Char) :
    posix? flags (':' :: s) = (named? (negation s).2).map fun (set, rest) =>
      (if (negation s).1 then (flags.fold set).compl else flags.fold set, rest) := by
  have hbody (negated : Bool) (rest : List Char) :
      (match rest.dropWhile (· != ':') with
        | ':' :: ']' :: after => do
          let base := flags.fold (← CharSet.posix? (String.ofList (rest.takeWhile (· != ':'))))
          return (if negated then base.compl else base, after)
        | _ => none) =
      (named? rest).map fun (set, rest) =>
        (if negated then (flags.fold set).compl else flags.fold set, rest) := by
    unfold named?
    split
    · cases CharSet.posix? (String.ofList (rest.takeWhile (· != ':'))) <;> rfl
    · rfl
  exact hbody (negation s).1 (negation s).2

theorem posix?_append (s t : List Char) :
    posix? flags (s ++ ')' :: t) = (posix? flags s).map fun (set, rest) => (set, rest ++ ')' :: t) := by
  cases s with
  | nil => rfl
  | cons c s =>
    by_cases hc : c = ':'
    · subst hc
      rw [List.cons_append, posix?_colon, posix?_colon, negation_append, named?_append,
        Option.map_map, Option.map_map]
      rfl
    · simp [posix?, hc]

theorem leading_nil (flags : Flags) (fuel : Nat) (c : OpenClass) : leading flags fuel c [] = none := by
  cases fuel <;> rfl

theorem leading_append {fuel : Nat} {c c' : OpenClass} {s s' : List Char}
    (h : leading flags fuel c s = some (c', s')) (extra : Nat) (t : List Char) :
    leading flags (fuel + extra) c (s ++ ')' :: t) = some (c', s' ++ ')' :: t) := by
  induction fuel generalizing c s with
  | zero => cases h
  | succ fuel ih =>
    rw [Nat.add_right_comm]
    cases s with
    | nil => cases h
    | cons d s =>
      by_cases hdash : d = '-'
      · subst hdash
        simp only [leading, List.cons_append] at h ⊢
        have hne : flags.skip s ≠ [] := by
          intro hnil
          rw [hnil, leading_nil] at h
          cases h
        rw [Flags.skip_append hne]
        exact ih h
      · by_cases hclose : d = ']'
        · subst hclose
          simp only [leading, List.cons_append] at h ⊢
          by_cases hempty : c.items = .empty
          · rw [if_pos hempty] at h ⊢
            have hne : flags.skip s ≠ [] := by
              intro hnil
              rw [hnil] at h
              cases h
            rw [Flags.skip_append hne]
            cases hs : flags.skip s with
            | nil => exact absurd hs hne
            | cons e s =>
              rw [hs] at h
              cases h
              rfl
          · rw [if_neg hempty] at h ⊢
            cases h
            rfl
        · have hplain (fuel : Nat) (u : List Char) :
              leading flags (fuel + 1) c (d :: u) = some (c, d :: u) := by
            simp [leading, hdash, hclose]
          rw [hplain] at h
          cases h
          exact hplain _ _

theorem opening_append {c : OpenClass} {s s' : List Char} (h : opening flags s = some (c, s'))
    (t : List Char) : opening flags (s ++ ')' :: t) = some (c, s' ++ ')' :: t) := by
  unfold opening at h ⊢
  have hne : flags.skip s ≠ [] := by
    intro hnil
    rw [hnil] at h
    cases h
  rw [Flags.skip_append hne]
  generalize flags.skip s = s at h
  have hlen (rest : List Char) : rest.length + 1 + (t.length + 1) = (rest ++ ')' :: t).length + 1 := by
    rw [List.length_append, List.length_cons]
    omega
  split at h
  · next rest =>
    have hrest : flags.skip rest ≠ [] := by
      intro hnil
      rw [hnil, leading_nil] at h
      cases h
    have happ := leading_append h (t.length + 1) t
    rw [← Flags.skip_append hrest, hlen] at happ
    exact happ
  · next hneg =>
    have happ := leading_append h (t.length + 1) t
    rw [hlen] at happ
    cases s with
    | nil => cases h
    | cons d s =>
      split
      · next he => exact absurd (List.cons_eq_cons.mp he).1 fun hd => hneg s (hd ▸ rfl)
      · exact happ

theorem item_continues {s s' : List Char} {e : Escape} (h : item flags s = some (e, s')) :
    Continues flags s' fun t u => item flags (s ++ ')' :: t) = some (e, u) := by
  cases s with
  | nil => cases h
  | cons c s =>
    by_cases hc : c = '\\'
    · subst hc
      exact Escape.read_continues h
    · simp only [item, List.cons_append] at h ⊢
      cases h
      exact .inl fun t => rfl

theorem skipVerbose_of_blank (b : Bool) {s : List Char} (h : ∀ c ∈ s, Text.isBlank c = true) :
    skipVerbose b s = [] := by
  induction s generalizing b with
  | nil => cases b <;> rfl
  | cons c s ih =>
    rw [List.forall_mem_cons] at h
    cases b with
    | true => exact ih _ h.2
    | false => simpa [skipVerbose, h.1] using ih false h.2

theorem skipVerbose_dropWhile (s : List Char) :
    skipVerbose false (s.dropWhile Text.isBlank) = skipVerbose false s := by
  induction s with
  | nil => rfl
  | cons c s ih =>
    by_cases hc : Text.isBlank c = true
    · rw [List.dropWhile_cons_of_pos hc, ih]
      simp [skipVerbose, hc]
    · rw [List.dropWhile_cons_of_neg hc]

/-- What stands behind blanks, a number sign, and more blanks. -/
def seen (s : List Char) : List Char :=
  match s.dropWhile Text.isBlank with
  | '#' :: more => more.dropWhile Text.isBlank
  | more => more

theorem seen_append {s : List Char} (h : seen s ≠ []) (u : List Char) :
    seen (s ++ u) = seen s ++ u := by
  unfold seen at h ⊢
  have hne : s.dropWhile Text.isBlank ≠ [] := by
    intro hnil
    simp [hnil] at h
  rw [dropWhile_append_of_ne_nil hne]
  split at h
  · next more hs =>
    rw [hs]
    exact dropWhile_append_of_ne_nil h u
  · next hno =>
    cases hs : s.dropWhile Text.isBlank with
    | nil => exact absurd hs hne
    | cons c more =>
      have hc : c ≠ '#' := fun hc => hno more (hc ▸ hs)
      simp [hc]

theorem skipVerbose_of_seen {s : List Char} (h : seen s = []) : skipVerbose false s = [] := by
  rw [← skipVerbose_dropWhile]
  unfold seen at h
  split at h
  · next more hs =>
    rw [hs]
    exact skipVerbose_of_blank true (List.dropWhile_eq_nil_iff.mp h)
  · rw [h]
    rfl

theorem head?_of_seen {s : List Char} (h : seen s = []) : s.head? ≠ some ']' ∧ s.head? ≠ some '-' := by
  cases s with
  | nil => simp
  | cons c s =>
    by_cases hc : Text.isBlank c = true
    · constructor
      all_goals
        rintro he
        cases Option.some.inj he
        revert hc
        decide
    · unfold seen at h
      rw [List.dropWhile_cons_of_neg hc] at h
      split at h
      · next he =>
        rw [(List.cons_eq_cons.mp he).1]
        exact ⟨by simp, by simp⟩
      · cases h

theorem peek_verbose (hv : flags.verbose = true) (s : List Char) :
    peek flags s = match seen s with
      | [] => s.head?
      | c :: _ => some c := by
  unfold peek
  simp only [hv]
  rfl

/-- Where a class goes on, what is seen first is the same with more text behind it. -/
theorem peek_append {s : List Char}
    (h : (peek flags s = some ']' ∨ peek flags s = some '-') ∨ flags.skip s ≠ []) (u : List Char) :
    peek flags (s ++ u) = peek flags s := by
  by_cases hv : flags.verbose = true
  · have hne : seen s ≠ [] := by
      intro hnil
      have hhead := head?_of_seen hnil
      simp only [peek_verbose hv, hnil, Flags.skip, hv, if_true, skipVerbose_of_seen hnil] at h
      simp [hhead.1, hhead.2] at h
    rw [peek_verbose hv, peek_verbose hv, seen_append hne]
    cases hs : seen s with
    | nil => exact absurd hs hne
    | cons c rest => rfl
  · cases s with
    | nil => simp [peek, Flags.skip, hv] at h
    | cons c s => simp [peek, hv]

theorem range_append {set : CharSet} {s s' : List Char} (h : range flags s = some (set, s'))
    (hne : s' ≠ []) (t : List Char) :
    range flags (s ++ ')' :: t) = some (set, s' ++ ')' :: t) := by
  unfold range at h ⊢
  obtain ⟨⟨first, rest⟩, hitem, h⟩ := Option.bind_eq_some_iff.mp h
  dsimp only at h
  have hskip : flags.skip rest ≠ [] := by
    intro hnil
    rw [hnil] at h
    cases h
  have hrest : rest ≠ [] := by
    rintro rfl
    exact hskip flags.skip_nil
  simp only [(item_continues hitem).of_ne_nil hrest t, Option.bind_eq_bind, Option.bind_some,
    Flags.skip_append hskip]
  split at h
  · next hnil => exact absurd hnil hskip
  · next rest' hdash =>
    rw [hdash]
    simp only [List.cons_append, Bool.or_eq_true, decide_eq_true_eq] at h ⊢
    by_cases hlast : peek flags rest' = some ']' ∨ peek flags rest' = some '-'
    · rw [if_pos hlast] at h
      rw [peek_append (.inl hlast), if_pos hlast]
      obtain ⟨set', hset, h⟩ := Option.bind_eq_some_iff.mp h
      cases h
      rw [hset]
      rfl
    · rw [if_neg hlast] at h
      have hskip' : flags.skip rest' ≠ [] := by
        intro hnil
        rw [hnil] at h
        cases h
      rw [peek_append (.inr hskip'), if_neg hlast, Flags.skip_append hskip']
      split at h
      · cases h
      · obtain ⟨⟨second, rest''⟩, hsecond, hrange⟩ := Option.bind_eq_some_iff.mp h
        split at hrange
        · next lo hi rest'' he =>
          cases he
          split_ifs at hrange with hbad
          cases hrange
          split
          · next he => simp at he
          · rw [(item_continues hsecond).of_ne_nil hne t]
            simp only [Option.bind_some, if_neg hbad]
            rfl
        · cases hrange
  · next hnil hdash =>
    obtain ⟨set', hset, h⟩ := Option.bind_eq_some_iff.mp h
    cases h
    split
    · next he => simp at he
    · next he =>
      cases hs : flags.skip rest with
      | nil => exact absurd hs hskip
      | cons c s =>
        rw [hs] at he
        exact absurd (List.cons_eq_cons.mp he).1 fun hc => hdash s (hc ▸ hs)
    · rw [hset]
      rfl

theorem read_nil (flags : Flags) (fuel : Nat) (c : OpenClass) (outer : List OpenClass) :
    read flags fuel c outer [] = none := by
  cases fuel with
  | zero => rfl
  | succ fuel =>
    rw [read, flags.skip_nil]

theorem read_append {fuel : Nat} {c : OpenClass} {outer : List OpenClass} {set : CharSet}
    {s s' : List Char} (h : read flags fuel c outer s = some (set, s')) (extra : Nat)
    (t : List Char) :
    read flags (fuel + extra) c outer (s ++ ')' :: t) = some (set, s' ++ ')' :: t) := by
  induction fuel generalizing c outer s with
  | zero => cases h
  | succ fuel ih =>
    rw [Nat.add_right_comm]
    unfold read at h ⊢
    have hne : flags.skip s ≠ [] := by
      intro hnil
      rw [hnil] at h
      cases h
    rw [Flags.skip_append hne]
    generalize flags.skip s = s at h hne
    split at h
    · cases h
    · next rest =>
      simp only [List.cons_append, posix?_append]
      cases hp : posix? flags rest with
      | none =>
        rw [hp] at h
        obtain ⟨⟨inner, rest'⟩, hopen, h⟩ := Option.bind_eq_some_iff.mp h
        simp only [Option.map_none, opening_append hopen, Option.bind_eq_bind, Option.bind_some]
        exact ih h
      | some answer =>
        obtain ⟨named, rest'⟩ := answer
        rw [hp] at h
        dsimp only [Option.map_some] at h ⊢
        split_ifs at h ⊢ with hascii
        exact ih h
    · next rest =>
      obtain ⟨closed, hclose, h⟩ := Option.bind_eq_some_iff.mp h
      simp only [List.cons_append, hclose, Option.bind_eq_bind, Option.bind_some]
      cases outer with
      | nil =>
        cases h
        rfl
      | cons enclosing outer => exact ih h
    · exact ih h
    · exact ih h
    · exact ih h
    · next hopen hclose hand hdash htilde =>
      obtain ⟨⟨part, rest⟩, hrange, h⟩ := Option.bind_eq_some_iff.mp h
      dsimp only at h
      have hrest : rest ≠ [] := by
        rintro rfl
        rw [read_nil] at h
        cases h
      have happ := range_append hrange hrest t
      split
      · next he => simp at he
      · next he =>
        obtain ⟨u, rfl⟩ := cons_of_append_eq hne he
        exact (hopen u rfl).elim
      · next he =>
        obtain ⟨u, rfl⟩ := cons_of_append_eq hne he
        exact (hclose u rfl).elim
      · next he =>
        obtain ⟨u, rfl⟩ := cons_cons_of_append_eq hne (by decide) he
        exact (hand u rfl).elim
      · next he =>
        obtain ⟨u, rfl⟩ := cons_cons_of_append_eq hne (by decide) he
        exact (hdash u rfl).elim
      · next he =>
        obtain ⟨u, rfl⟩ := cons_cons_of_append_eq hne (by decide) he
        exact (htilde u rfl).elim
      · simp only [happ, Option.bind_eq_bind, Option.bind_some]
        exact ih h

end Class

theorem readClass_append {set : CharSet} {s s' : List Char} (h : readClass flags s = some (set, s'))
    (t : List Char) : readClass flags (s ++ ')' :: t) = some (set, s' ++ ')' :: t) := by
  unfold readClass at h ⊢
  obtain ⟨⟨c, rest⟩, hopen, h⟩ := Option.bind_eq_some_iff.mp h
  have happ := Class.read_append h (t.length + 1) t
  have hlen : s.length + 1 + (t.length + 1) = (s ++ ')' :: t).length + 1 := by
    rw [List.length_append, List.length_cons]
    omega
  rw [hlen] at happ
  simp only [Class.opening_append hopen, Option.bind_eq_bind, Option.bind_some]
  exact happ

end Routing.Pattern
