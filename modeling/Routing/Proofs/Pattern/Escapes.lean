import Routing.Proofs.Pattern.Continuation

/-! Escapes in a longer text. -/
namespace Routing.Pattern

variable {flags : Flags}

namespace Escape

theorem hexFixed_continues {n acc a : Nat} {s s' : List Char}
    (h : hexFixed flags n acc s = some (a, s')) :
    Continues flags s' fun t u => hexFixed flags n acc (s ++ ')' :: t) = some (a, u) := by
  induction n generalizing acc s with
  | zero =>
    cases h
    exact .inl fun t => rfl
  | succ n ih =>
    cases s with
    | nil => cases h
    | cons c rest =>
      cases hd : hexDigit? c with
      | none => simp [hexFixed, hd] at h
      | some d =>
        simp only [hexFixed, hd, List.cons_append, Option.bind_eq_bind, Option.bind_some] at h ⊢
        rcases flags.skip_continues rest with hc | ⟨hv, hnil, hopen⟩
        · simp only [hc]
          exact ih h
        · rw [hnil] at h
          cases n with
          | zero =>
            cases h
            exact .inr ⟨hv, rfl, fun t ht => by simp only [hopen t ht, hexFixed]⟩
          | succ n => cases h

theorem hexBraced_continues {fuel n acc a : Nat} {s s' : List Char} (extra : List Char → Nat)
    (h : hexBraced flags fuel n acc s = some (a, s')) :
    Continues flags s' fun t u =>
      hexBraced flags (fuel + extra t) n acc (s ++ ')' :: t) = some (a, u) := by
  induction fuel generalizing n acc s with
  | zero => cases h
  | succ fuel ih =>
    cases s with
    | nil => cases h
    | cons c rest =>
      simp only [Nat.add_right_comm fuel 1]
      by_cases hbrace : c = '}'
      · subst hbrace
        simp only [hexBraced, List.cons_append] at h ⊢
        split_ifs at h with hn
        cases h
        simp only [hn, if_false]
        exact (flags.skip_continues rest).imp fun t u hu => by rw [hu]
      · cases hd : hexDigit? c with
        | none => simp [hexBraced, hd] at h
        | some d =>
          simp only [hexBraced, hd, List.cons_append, Option.bind_eq_bind, Option.bind_some] at h ⊢
          have hne : flags.skip rest ≠ [] := by
            intro hnil
            rw [hnil] at h
            cases fuel <;> cases h
          simp only [Flags.skip_append hne]
          exact ih h

theorem hex_continues {digits : Nat} {s s' : List Char} {e : Escape}
    (h : hex flags digits s = some (e, s')) :
    Continues flags s' fun t u => hex flags digits (s ++ ')' :: t) = some (e, u) := by
  unfold hex at h ⊢
  have hne : flags.skip s ≠ [] := by
    intro hnil
    rw [hnil] at h
    cases h
  simp only [Flags.skip_append hne]
  generalize flags.skip s = s at h
  split at h
  · cases h
  · next rest =>
    obtain ⟨⟨n, rest'⟩, hn, h⟩ := Option.bind_eq_some_iff.mp h
    obtain ⟨c, hc, h⟩ := Option.bind_eq_some_iff.mp h
    cases h
    have hrest : flags.skip rest ≠ [] := by
      intro hnil
      rw [hnil] at hn
      cases hn
    refine (hexBraced_continues (fun t => t.length + 1) hn).imp fun t u hu => ?_
    have hlen : rest.length + 1 + (t.length + 1) = (rest ++ ')' :: t).length + 1 := by
      rw [List.length_append, List.length_cons]
      omega
    rw [← Flags.skip_append hrest, hlen] at hu
    simp only [List.cons_append, hu, hc, Option.bind_eq_bind, Option.bind_some]
    rfl
  · next hnil hbrace =>
    obtain ⟨⟨n, rest'⟩, hn, h⟩ := Option.bind_eq_some_iff.mp h
    dsimp only at h
    split_ifs at h with hbyte
    obtain ⟨c, hc, h⟩ := Option.bind_eq_some_iff.mp h
    cases h
    refine (hexFixed_continues hn).imp fun t u hu => ?_
    split
    · next he => simp at he
    · next rest he =>
      cases s with
      | nil => exact absurd rfl hnil
      | cons c s => exact absurd (List.cons_eq_cons.mp he).1 (fun hc => hbrace s (hc ▸ rfl))
    · simp only [hu, hbyte, hc, Option.bind_eq_bind, Option.bind_some]
      rfl

theorem upToBrace_append {fuel : Nat} {s s' name : List Char}
    (h : upToBrace flags fuel s = some (name, s')) (extra : Nat) (t : List Char) :
    upToBrace flags (fuel + extra) (s ++ ')' :: t) = some (name, s' ++ ')' :: t) := by
  induction fuel generalizing s name with
  | zero => cases h
  | succ fuel ih =>
    rw [Nat.add_right_comm]
    cases s with
    | nil => cases h
    | cons c rest =>
      by_cases hbrace : c = '}'
      · subst hbrace
        cases h
        rfl
      · simp only [upToBrace, List.cons_append] at h ⊢
        obtain ⟨⟨inner, rest'⟩, hn, h⟩ := Option.bind_eq_some_iff.mp h
        cases h
        have hne : flags.skip rest ≠ [] := by
          intro hnil
          rw [hnil] at hn
          cases fuel <;> cases hn
        rw [Flags.skip_append hne, ih hn]
        rfl

theorem propertyName_continues {s s' name : List Char} (h : propertyName flags s = some (name, s')) :
    Continues flags s' fun t u => propertyName flags (s ++ ')' :: t) = some (name, u) := by
  unfold propertyName at h ⊢
  have hne : flags.skip s ≠ [] := by
    intro hnil
    rw [hnil] at h
    cases h
  simp only [Flags.skip_append hne]
  generalize flags.skip s = s at h
  split at h
  · cases h
  · next rest =>
    have hrest : flags.skip rest ≠ [] := by
      intro hnil
      rw [hnil] at h
      cases h
    refine .inl fun t => ?_
    have happ := upToBrace_append h (t.length + 1) t
    have hlen : rest.length + 1 + (t.length + 1) = (rest ++ ')' :: t).length + 1 := by
      rw [List.length_append, List.length_cons]
      omega
    rw [← Flags.skip_append hrest, hlen] at happ
    exact happ
  · cases h
  · next c rest hbrace hback =>
    cases h
    refine (flags.skip_continues rest).imp fun t u hu => ?_
    split
    · next he => cases he
    · next he => exact absurd (List.cons_eq_cons.mp he).1 hbrace
    · next he => exact absurd (List.cons_eq_cons.mp he).1 hback
    · next he =>
      rw [← (List.cons_eq_cons.mp he).1, ← (List.cons_eq_cons.mp he).2, ← hu]
      rfl

theorem property_continues {negated : Bool} {s s' : List Char} {e : Escape}
    (h : property flags negated s = some (e, s')) :
    Continues flags s' fun t u => property flags negated (s ++ ')' :: t) = some (e, u) := by
  unfold property at h ⊢
  obtain ⟨⟨name, rest⟩, hn, h⟩ := Option.bind_eq_some_iff.mp h
  by_cases hunicode : (!flags.unicode) = true
  · simp [hunicode] at h
  · simp only [hunicode] at h
    obtain ⟨spans, hs, h⟩ := Option.bind_eq_some_iff.mp h
    cases h
    refine (propertyName_continues hn).imp fun t u hname => ?_
    simp only [hname, Option.bind_eq_bind, Option.bind_some, hunicode, hs]
    rfl

theorem edgeName_append {fuel : Nat} {s rest name : List Char}
    (h : edgeName flags fuel s = (name, '}' :: rest)) (extra : Nat) (t : List Char) :
    edgeName flags (fuel + extra) (s ++ ')' :: t) = (name, '}' :: rest ++ ')' :: t) := by
  induction fuel generalizing s name with
  | zero =>
    cases h
    cases extra <;> rfl
  | succ fuel ih =>
    rw [Nat.add_right_comm]
    cases s with
    | nil => cases h
    | cons c s =>
      simp only [edgeName, List.cons_append] at h ⊢
      by_cases hc : (c.isAlpha || c = '-') = true
      · rw [if_pos hc] at h ⊢
        cases hn : edgeName flags fuel (flags.skip s) with
        | mk inner rest' =>
          rw [hn] at h
          cases h
          have hne : flags.skip s ≠ [] := by
            intro hnil
            rw [hnil] at hn
            cases fuel <;> cases hn
          rw [Flags.skip_append hne, ih hn]
          rfl
      · rw [if_neg hc] at h ⊢
        cases h
        rfl

theorem wordEdge_append {s s' : List Char} {e : Escape} (h : wordEdge flags s = some (e, s'))
    (t : List Char) : wordEdge flags (s ++ ')' :: t) = some (e, s' ++ ')' :: t) := by
  unfold wordEdge at h ⊢
  split at h
  · next rest =>
    have hne : flags.skip rest ≠ [] := by
      intro hnil
      rw [hnil] at h
      cases h
    simp only [List.cons_append, Flags.skip_append hne]
    split at h
    · cases h
    · next c inner hs =>
      simp only [hs, List.cons_append]
      by_cases hc : (c.isAlpha || c = '-') = true
      · rw [if_pos hc] at h ⊢
        split at h
        · next name rest' hname =>
          have happ := edgeName_append hname (t.length + 1) t
          have hlen : inner.length + 1 + (t.length + 1) = (inner ++ ')' :: t).length + 1 := by
            rw [List.length_append, List.length_cons]
            omega
          rw [hlen, List.cons_append] at happ
          simp only [happ, List.cons_append]
          obtain ⟨edge, hedge, h⟩ := Option.map_eq_some_iff.mp h
          cases h
          rw [hedge]
          rfl
        · cases h
      · rw [if_neg hc] at h ⊢
        cases h
        rfl
  · next hbrace =>
    cases h
    split
    · next rest he =>
      cases s with
      | nil => cases he
      | cons c s => exact absurd (List.cons_eq_cons.mp he).1 fun hc => hbrace s (hc ▸ rfl)
    · rfl

theorem letterClass_append {negated : Bool} {base : Bool → CharSet} {s s' : List Char} {e : Escape}
    (h : letterClass flags negated base s = some (e, s')) (t : List Char) :
    letterClass flags negated base (s ++ ')' :: t) = some (e, s' ++ ')' :: t) := by
  unfold letterClass at h ⊢
  by_cases hbytes : (negated && !flags.unicode) = true
  · rw [if_pos hbytes] at h
    cases h
  · rw [if_neg hbytes] at h ⊢
    cases h
    rfl

theorem read_continues {s s' : List Char} {e : Escape} (h : read flags s = some (e, s')) :
    Continues flags s' fun t u => read flags (s ++ ')' :: t) = some (e, u) := by
  cases s with
  | nil => cases h
  | cons c rest =>
    simp only [read, List.cons_append] at h ⊢
    by_cases hq : isQuotable c = true
    · simp only [if_pos hq] at h ⊢
      cases h
      exact .inl fun t => rfl
    · simp only [if_neg hq] at h ⊢
      split at h
      case h_1 | h_2 | h_3 => exact hex_continues h
      case h_4 | h_5 => exact property_continues h
      case h_6 | h_7 | h_8 | h_9 | h_10 | h_11 => exact .inl (letterClass_append h)
      case h_20 => exact .inl (wordEdge_append h)
      all_goals
        cases h
        try exact .inl fun t => rfl

end Escape

end Routing.Pattern
