import Mathlib.Data.List.TakeDrop
import Routing.Proofs.Pattern.Classes

/-! Tokens in a longer text, and tokens inside groups. -/
namespace Routing.Pattern.Reader

variable {flags : Flags}

theorem digits_nil {fuel n : Nat} {acc : Option Nat} {s' : List Char}
    (h : digits flags fuel acc [] = some (n, s')) : s' = [] := by
  cases fuel with
  | zero => cases h
  | succ fuel =>
    obtain ⟨m, _, h⟩ := Option.map_eq_some_iff.mp h
    cases h
    rfl

theorem digits_append {fuel n : Nat} {acc : Option Nat} {s s' : List Char}
    (h : digits flags fuel acc s = some (n, s')) (hne : s' ≠ []) (extra : Nat) (t : List Char) :
    digits flags (fuel + extra) acc (s ++ ')' :: t) = some (n, s' ++ ')' :: t) := by
  induction fuel generalizing acc s with
  | zero => cases h
  | succ fuel ih =>
    rw [Nat.add_right_comm]
    cases s with
    | nil => exact absurd (digits_nil h) hne
    | cons c s =>
      simp only [digits, List.cons_append] at h ⊢
      by_cases hc : c.isDigit = true
      · rw [if_pos hc] at h ⊢
        have hskip : flags.skip s ≠ [] := by
          intro hnil
          rw [hnil] at h
          exact hne (digits_nil h)
        rw [Flags.skip_append hskip]
        exact ih h
      · rw [if_neg hc] at h ⊢
        obtain ⟨m, hm, h⟩ := Option.map_eq_some_iff.mp h
        cases h
        rw [hm]
        rfl

theorem count?_append {n : Nat} {s s' : List Char} (h : count? flags s = some (n, s'))
    (hne : s' ≠ []) (t : List Char) : count? flags (s ++ ')' :: t) = some (n, s' ++ ')' :: t) := by
  unfold count? at h ⊢
  obtain ⟨⟨m, rest⟩, hdigits, h⟩ := Option.bind_eq_some_iff.mp h
  dsimp only at h
  by_cases hbound : countBound ≤ m
  · rw [if_pos hbound] at h
    cases h
  · rw [if_neg hbound] at h
    cases h
    have hrest : rest ≠ [] := by
      rintro rfl
      exact hne rfl
    have hblank : s.dropWhile Text.isBlank ≠ [] := by
      intro hnil
      rw [hnil] at hdigits
      exact hrest (digits_nil hdigits)
    have happ := digits_append hdigits hrest (t.length + 1) t
    have hlen : s.length + 1 + (t.length + 1) = (s ++ ')' :: t).length + 1 := by
      rw [List.length_append, List.length_cons]
      omega
    rw [hlen, ← dropWhile_append_of_ne_nil hblank] at happ
    simp only [happ, Option.bind_eq_bind, Option.bind_some, if_neg hbound]
    rw [dropWhile_append_of_ne_nil hne]
    rfl

theorem count?_nil (flags : Flags) : count? flags [] = none := rfl

theorem bounds?_append {bounds : Nat × Option Nat} {s s' : List Char}
    (h : bounds? flags s = some (bounds, s')) (t : List Char) :
    bounds? flags (s ++ ')' :: t) = some (bounds, s' ++ ')' :: t) := by
  unfold bounds? at h ⊢
  obtain ⟨⟨lo, rest⟩, hlo, h⟩ := Option.bind_eq_some_iff.mp h
  dsimp only at h
  have hrest : rest ≠ [] := by
    rintro rfl
    cases h
  have hskip : flags.skip s ≠ [] := by
    intro hnil
    rw [hnil, count?_nil] at hlo
    cases hlo
  simp only [Flags.skip_append hskip, count?_append hlo hrest, Option.bind_eq_bind, Option.bind_some]
  split at h
  · cases h
    rfl
  · next rest =>
    have hskip' : flags.skip rest ≠ [] := by
      intro hnil
      rw [hnil] at h
      cases h
    simp only [List.cons_append, Flags.skip_append hskip']
    split at h
    · next hbrace =>
      cases h
      rw [hbrace]
      rfl
    · next hbrace =>
      obtain ⟨⟨hi, rest'⟩, hhi, h⟩ := Option.bind_eq_some_iff.mp h
      dsimp only at h
      split at h
      · split_ifs at h with hlt
        cases h
        split
        · next he =>
          obtain ⟨u, hu⟩ := cons_of_append_eq hskip' he
          exact (hbrace u hu).elim
        · simp only [count?_append hhi (by simp), Option.bind_some, List.cons_append, if_neg hlt]
          rfl
      · cases h
  · cases h

theorem readFlags_append {negated dash : Bool} {seen : List Char} {s : List Char}
    {answer : Flags × Bool × Char × List Char}
    (h : readFlags negated dash seen flags s = some answer) (t : List Char) :
    readFlags negated dash seen flags (s ++ ')' :: t) =
      some (answer.1, answer.2.1, answer.2.2.1, answer.2.2.2 ++ ')' :: t) := by
  induction s generalizing negated dash seen flags with
  | nil => cases h
  | cons c s ih =>
    simp only [readFlags, List.cons_append] at h ⊢
    split_ifs at h ⊢ with hend hdash hminus hneg hseen
    · cases h
      rfl
    · exact ih h
    · split at h
      · exact ih h
      · cases h

theorem groupName?_append {name s s' : List Char} (h : groupName? s = some (name, s'))
    (t : List Char) : groupName? (s ++ ')' :: t) = some (name, s' ++ ')' :: t) := by
  unfold groupName? at h ⊢
  rw [List.span_eq_takeWhile_dropWhile] at h ⊢
  split at h
  · next first more rest hs =>
    simp only [Prod.mk.injEq] at hs
    split_ifs at h with hname
    cases h
    have hne : s.dropWhile (· != '>') ≠ [] := by
      rw [hs.2]
      exact List.cons_ne_nil _ _
    rw [dropWhile_append_of_ne_nil hne, takeWhile_append_of_ne_nil hne, hs.1, hs.2]
    simp only [List.cons_append, if_pos hname]
  · cases h

theorem named?_append {r r' : Reader} {s s' : List Char} (h : r.named? s = some (r', s'))
    (t : List Char) : r.named? (s ++ ')' :: t) = some (r', s' ++ ')' :: t) := by
  unfold named? at h ⊢
  obtain ⟨⟨name, rest⟩, hname, h⟩ := Option.bind_eq_some_iff.mp h
  dsimp only at h
  split_ifs at h with hused
  cases h
  simp only [groupName?_append hname, Option.bind_eq_bind, Option.bind_some, hused]
  rfl

/-- What an opening parenthesis begins, told from what is left after blanks. -/
def opened? (r : Reader) : List Char → Option (Reader × List Char)
  | '?' :: '=' :: _ | '?' :: '!' :: _ | '?' :: '<' :: '=' :: _ | '?' :: '<' :: '!' :: _ => none
  | '?' :: 'P' :: '<' :: rest | '?' :: '<' :: rest => r.named? rest
  | '?' :: rest =>
    match readFlags false false [] r.flags rest with
    | none => none
    | some (flags, bare, c, rest) =>
      if c = ':' then some (r.openGroup false flags, rest)
      else if bare then none
      else some ({ r with flags, items := none :: r.items }, rest)
  | s => some (r.openGroup true r.flags, s)

theorem opening?_eq (r : Reader) (s : List Char) : r.opening? s = r.opened? (r.flags.skip s) := rfl

/-- Flags, where no assertion and no name stands. -/
theorem opened?_flags (r : Reader) {rest : List Char} (hequals : ∀ more, rest ≠ '=' :: more)
    (hbang : ∀ more, rest ≠ '!' :: more) (hangle : ∀ more, rest ≠ '<' :: more)
    (hnamed : ∀ more, rest ≠ 'P' :: '<' :: more) :
    r.opened? ('?' :: rest) =
      match readFlags false false [] r.flags rest with
      | none => none
      | some (flags, bare, c, rest) =>
        if c = ':' then some (r.openGroup false flags, rest)
        else if bare then none
        else some ({ r with flags, items := none :: r.items }, rest) := by
  unfold opened?
  split
  case h_1 he => exact absurd (List.cons_eq_cons.mp he).2 (hequals _)
  case h_2 he => exact absurd (List.cons_eq_cons.mp he).2 (hbang _)
  case h_3 he | h_4 he | h_6 he => exact absurd (List.cons_eq_cons.mp he).2 (hangle _)
  case h_5 he => exact absurd (List.cons_eq_cons.mp he).2 (hnamed _)
  case h_7 he =>
    cases he
    rfl
  case h_8 hmark => exact absurd rfl (hmark rest)

theorem opened?_angle (r : Reader) {rest : List Char} (hequals : ∀ more, rest ≠ '=' :: more)
    (hbang : ∀ more, rest ≠ '!' :: more) : r.opened? ('?' :: '<' :: rest) = r.named? rest := by
  rw [opened?]
  · exact hequals
  · exact hbang

theorem opened?_plain (r : Reader) {s : List Char} (h : ∀ rest, s ≠ '?' :: rest) :
    r.opened? s = some (r.openGroup true r.flags, s) := by
  unfold opened?
  split
  case h_8 => rfl
  all_goals exact absurd rfl (h _)

theorem opened?_append {r r' : Reader} {s s' : List Char} (h : r.opened? s = some (r', s'))
    (t : List Char) : r.opened? (s ++ ')' :: t) = some (r', s' ++ ')' :: t) := by
  unfold opened? at h
  split at h
  case h_1 | h_2 | h_3 | h_4 => cases h
  case h_5 => exact named?_append h t
  case h_6 rest hequals hbang =>
    have hne : rest ≠ [] := by
      rintro rfl
      cases h
    rw [List.cons_append, List.cons_append, opened?_angle]
    · exact named?_append h t
    · intro more he
      obtain ⟨u, rfl⟩ := cons_of_append_eq hne he
      exact hequals u rfl
    · intro more he
      obtain ⟨u, rfl⟩ := cons_of_append_eq hne he
      exact hbang u rfl
  case h_7 rest hequals hbang _ _ hnamed hangle =>
    have hne : rest ≠ [] := by
      rintro rfl
      cases h
    rw [List.cons_append, opened?_flags]
    · split at h
      · cases h
      · next hflags =>
        rw [readFlags_append hflags]
        dsimp only
        split_ifs at h ⊢
        all_goals
          cases h
          rfl
    · intro more he
      obtain ⟨u, rfl⟩ := cons_of_append_eq hne he
      exact hequals u rfl
    · intro more he
      obtain ⟨u, rfl⟩ := cons_of_append_eq hne he
      exact hbang u rfl
    · intro more he
      obtain ⟨u, rfl⟩ := cons_of_append_eq hne he
      exact hangle u rfl
    · intro more he
      obtain ⟨u, rfl⟩ := cons_cons_of_append_eq hne (by decide) he
      exact hnamed u rfl
  case h_8 hmark =>
    cases h
    refine opened?_plain r fun rest he => ?_
    cases s with
    | nil => simp at he
    | cons c s => exact hmark s (by rw [(List.cons_eq_cons.mp he).1])

theorem opening?_continues {r r' : Reader} {s s' : List Char} (h : r.opening? s = some (r', s')) :
    Continues r'.flags s' fun t u => r.opening? (s ++ ')' :: t) = some (r', u) := by
  simp only [opening?_eq] at h ⊢
  rcases r.flags.skip_continues s with hc | ⟨hv, hnil, hopen⟩
  · simp only [hc]
    exact .inl (opened?_append h)
  · rw [hnil] at h
    cases h
    refine .inr ⟨hv, rfl, fun t ht => ?_⟩
    simp only [hopen t ht]
    rcases ht with hu | ⟨u, hu⟩ <;> rw [hu] <;> rfl

theorem lazyMark_append (s t : List Char) :
    lazyMark (s ++ ')' :: t) = ((lazyMark s).1, (lazyMark s).2 ++ ')' :: t) := by
  cases s with
  | nil => rfl
  | cons c s => by_cases hc : c = '?' <;> simp [lazyMark, hc]

theorem lazyMark_halting {u : List Char} (h : Halting u) : lazyMark u = (false, u) := by
  rcases h with rfl | ⟨t, rfl⟩ <;> rfl

theorem repeat?_flags {r r' : Reader} {lo : Nat} {hi : Option Nat} {lazily : Bool}
    (h : r.repeat? lo hi lazily = some r') : r'.flags = r.flags := by
  unfold repeat? at h
  split at h
  · cases h
    rfl
  · cases h

theorem repeatLazily_append {r r' : Reader} {lo : Nat} {hi : Option Nat} {s s' : List Char}
    (h : (r.repeat? lo hi (lazyMark s).1).map (·, (lazyMark s).2) = some (r', s')) (t : List Char) :
    (r.repeat? lo hi (lazyMark (s ++ ')' :: t)).1).map (·, (lazyMark (s ++ ')' :: t)).2) =
      some (r', s' ++ ')' :: t) := by
  obtain ⟨r', hr, h⟩ := Option.map_eq_some_iff.mp h
  cases h
  rw [lazyMark_append, hr]
  rfl

theorem repeatCounted_continues {r r' : Reader} {lo : Nat} {hi : Option Nat} {s s' : List Char}
    (h : (r.repeat? lo hi (lazyMark (r.flags.skip s)).1).map (·, (lazyMark (r.flags.skip s)).2) =
      some (r', s')) :
    Continues r'.flags s' fun t u =>
      (r.repeat? lo hi (lazyMark (r.flags.skip (s ++ ')' :: t))).1).map
        (·, (lazyMark (r.flags.skip (s ++ ')' :: t))).2) = some (r', u) := by
  have hflags : r'.flags = r.flags := by
    obtain ⟨r'', hr, he⟩ := Option.map_eq_some_iff.mp h
    cases he
    exact repeat?_flags hr
  rw [hflags]
  rcases r.flags.skip_continues s with hc | ⟨hv, hnil, hopen⟩
  · simp only [hc]
    exact .inl (repeatLazily_append h)
  · rw [hnil] at h
    obtain ⟨r'', hr, he⟩ := Option.map_eq_some_iff.mp h
    cases he
    refine .inr ⟨hv, rfl, fun t ht => ?_⟩
    simp only [hopen t ht, lazyMark_halting ht]
    exact Option.map_eq_some_iff.mpr ⟨r', hr, rfl⟩

theorem token?_counted (r : Reader) (s : List Char) :
    r.token? '{' s = (bounds? r.flags s).bind fun (bounds, rest) =>
      (r.repeat? bounds.1 bounds.2 (lazyMark (r.flags.skip rest)).1).map
        (·, (lazyMark (r.flags.skip rest)).2) := by
  simp only [Option.map_eq_bind]
  rfl

theorem token?_continues {r r' : Reader} {c : Char} {s s' : List Char}
    (h : r.token? c s = some (r', s')) :
    Continues r'.flags s' fun t u => r.token? c (s ++ ')' :: t) = some (r', u) := by
  unfold token? at h ⊢
  split at h
  · exact opening?_continues h
  · obtain ⟨r', hr, h⟩ := Option.map_eq_some_iff.mp h
    cases h
    simp only [hr]
    exact .inl fun t => rfl
  · cases h
    exact .inl fun t => rfl
  · obtain ⟨⟨set, rest⟩, hclass, h⟩ := Option.map_eq_some_iff.mp h
    cases h
    simp only [readClass_append hclass]
    exact .inl fun t => rfl
  · exact .inl (repeatLazily_append h)
  · exact .inl (repeatLazily_append h)
  · exact .inl (repeatLazily_append h)
  · have hcounted := (r.token?_counted s).symm.trans h
    obtain ⟨⟨bounds, rest⟩, hbounds, hrepeat⟩ := Option.bind_eq_some_iff.mp hcounted
    refine (repeatCounted_continues hrepeat).imp fun t u hu => ?_
    change r.token? '{' (s ++ ')' :: t) = some (r', u)
    rw [token?_counted, bounds?_append hbounds]
    exact hu
  · obtain ⟨⟨e, rest⟩, hescape, h⟩ := Option.map_eq_some_iff.mp h
    cases h
    refine (Escape.read_continues hescape).imp fun t u hu => ?_
    simp only [hu]
    rfl
  · obtain ⟨e, hdot, h⟩ := Option.map_eq_some_iff.mp h
    cases h
    simp only [hdot]
    exact .inl fun t => rfl
  all_goals
    cases h
    exact .inl fun t => rfl

end Routing.Pattern.Reader
