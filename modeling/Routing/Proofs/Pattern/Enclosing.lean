import Routing.Proofs.Pattern.Numbering
import Routing.Proofs.Pattern.Tokens

/-! Reading a pattern that stands in parentheses inside another one. -/
namespace Routing.Pattern

namespace Reader

/-- The reader inside groups that are open around it, where some names are taken. -/
def within (r : Reader) (names : List (List Char)) (outer : List OpenGroup) : Reader :=
  { r with names := r.names ++ names, outer := r.outer ++ outer }

variable {names : List (List Char)} {outer : List OpenGroup}

@[simp] theorem flags_within (r : Reader) : (r.within names outer).flags = r.flags := rfl

@[simp] theorem names_within (r : Reader) : (r.within names outer).names = r.names ++ names := rfl

/-- A name that is taken around the reader, and that it gives, too, is an error. -/
theorem named?_within {r r' : Reader} {s s' : List Char} (h : r.named? s = some (r', s')) :
    (r.within names outer).named? s = some (r'.within names outer, s') ∨
      ((r.within names outer).named? s = none ∧ ¬(r'.within names outer).names.Nodup) := by
  unfold named? at h ⊢
  obtain ⟨⟨name, rest⟩, hname, h⟩ := Option.bind_eq_some_iff.mp h
  dsimp only at h
  split_ifs at h with hused
  cases h
  simp only [hname, Option.bind_eq_bind, Option.bind_some]
  by_cases htaken : names.contains name = true
  · have hmem : name ∈ names := by simpa using htaken
    refine .inr ⟨?_, fun hnodup => ?_⟩
    · rw [if_pos]
      simpa [within] using .inr hmem
    · exact (List.nodup_cons.mp hnodup).1 (List.mem_append_right _ hmem)
  · refine .inl ?_
    rw [if_neg]
    · rfl
    · simpa [within] using ⟨by simpa using hused, by simpa using htaken⟩

theorem opened?_within {r r' : Reader} {s s' : List Char} (h : r.opened? s = some (r', s')) :
    (r.within names outer).opened? s = some (r'.within names outer, s') ∨
      ((r.within names outer).opened? s = none ∧ ¬(r'.within names outer).names.Nodup) := by
  unfold opened? at h
  split at h
  case h_1 | h_2 | h_3 | h_4 => cases h
  case h_5 => exact named?_within h
  case h_6 hequals hbang =>
    rw [opened?_angle _ hequals hbang]
    exact named?_within h
  case h_7 hequals hbang _ _ hnamed hangle =>
    left
    rw [opened?_flags _ hequals hbang hangle hnamed, flags_within]
    split at h
    · cases h
    · split_ifs at h ⊢
      all_goals
        cases h
        rfl
  case h_8 hmark =>
    cases h
    exact .inl (opened?_plain _ hmark)

theorem repeat?_within {r r' : Reader} {lo : Nat} {hi : Option Nat} {lazily : Bool}
    (h : r.repeat? lo hi lazily = some r') :
    (r.within names outer).repeat? lo hi lazily = some (r'.within names outer) := by
  obtain ⟨flags, ownNames, branches, items, own⟩ := r
  match items with
  | [] | none :: _ => cases h
  | some e :: items =>
    cases h
    rfl

theorem closeGroup?_within {r r' : Reader} (h : r.closeGroup? = some r') :
    (r.within names outer).closeGroup? = some (r'.within names outer) := by
  obtain ⟨flags, ownNames, branches, items, own⟩ := r
  cases own with
  | nil => cases h
  | cons g own =>
    cases h
    rfl

theorem repeatLazily_within {r r' : Reader} {lo : Nat} {hi : Option Nat} {s s' : List Char}
    (h : (r.repeat? lo hi (lazyMark s).1).map (·, (lazyMark s).2) = some (r', s')) :
    ((r.within names outer).repeat? lo hi (lazyMark s).1).map (·, (lazyMark s).2) =
      some (r'.within names outer, s') := by
  obtain ⟨r', hr, h⟩ := Option.map_eq_some_iff.mp h
  cases h
  rw [repeat?_within hr]
  rfl

theorem token?_within (names : List (List Char)) (outer : List OpenGroup) {r r' : Reader} {c : Char}
    {s s' : List Char} (h : r.token? c s = some (r', s')) :
    (r.within names outer).token? c s = some (r'.within names outer, s') ∨
      ((r.within names outer).token? c s = none ∧ ¬(r'.within names outer).names.Nodup) := by
  unfold token? at h ⊢
  split at h
  · exact opened?_within h
  all_goals left
  · obtain ⟨r', hr, h⟩ := Option.map_eq_some_iff.mp h
    cases h
    rw [closeGroup?_within hr]
    rfl
  · cases h
    rfl
  · obtain ⟨⟨set, rest⟩, hclass, h⟩ := Option.map_eq_some_iff.mp h
    cases h
    rw [flags_within, hclass]
    rfl
  · exact repeatLazily_within h
  · exact repeatLazily_within h
  · exact repeatLazily_within h
  · have hcounted := (r.token?_counted s).symm.trans h
    obtain ⟨⟨bounds, rest⟩, hbounds, hrepeat⟩ := Option.bind_eq_some_iff.mp hcounted
    change (r.within names outer).token? '{' s = _
    rw [token?_counted, flags_within, hbounds]
    exact repeatLazily_within hrepeat
  · obtain ⟨⟨e, rest⟩, hescape, h⟩ := Option.map_eq_some_iff.mp h
    cases h
    rw [flags_within, hescape]
    rfl
  · obtain ⟨e, hdot, h⟩ := Option.map_eq_some_iff.mp h
    cases h
    rw [flags_within, hdot]
    rfl
  all_goals
    cases h
    rfl

def itemSlots (items : List Item) : Nat :=
  (items.map fun item => (item.map Expr.slots).getD 0).sum

/-- How many group numbers what has been read takes. -/
def slots (r : Reader) : Nat :=
  itemSlots r.items + (r.branches.map Expr.slots).sum +
    (r.outer.map fun g =>
      (if g.capturing then 1 else 0) + itemSlots g.items + (g.branches.map Expr.slots).sum).sum

theorem itemSlots_cons (item : Item) (items : List Item) :
    itemSlots (item :: items) = (item.map Expr.slots).getD 0 + itemSlots items := by
  simp [itemSlots]

theorem slots_branch (items : List Item) : (branch items).slots = itemSlots items := by
  unfold branch itemSlots
  rw [Expr.slots_seqAll, List.filterMap_reverse, List.map_reverse, List.sum_reverse]
  induction items with
  | nil => rfl
  | cons item items ih => cases item <;> simp_all

theorem slots_current (r : Reader) :
    r.current.slots = itemSlots r.items + (r.branches.map Expr.slots).sum := by
  unfold current
  rw [Expr.slots_altAll, List.map_reverse, List.sum_reverse, List.map_cons, List.sum_cons,
    slots_branch]

/-- Only new names are added, and every one comes with a new group number. -/
structure Grows (r r' : Reader) : Prop where
  suffix : r.names <:+ r'.names
  nodup : r.names.Nodup → r'.names.Nodup
  slots : r'.names.length + r.slots ≤ r.names.length + r'.slots

theorem Grows.refl (r : Reader) : r.Grows r := ⟨List.suffix_refl _, id, Nat.le_refl _⟩

theorem Grows.trans {a b c : Reader} (hab : a.Grows b) (hbc : b.Grows c) : a.Grows c := by
  refine ⟨hab.suffix.trans hbc.suffix, hbc.nodup ∘ hab.nodup, ?_⟩
  have := hab.slots
  have := hbc.slots
  omega

theorem Grows.of_slots {r r' : Reader} (hnames : r'.names = r.names) (hslots : r.slots ≤ r'.slots) :
    r.Grows r' := by
  refine ⟨hnames ▸ List.suffix_refl _, fun h => hnames ▸ h, ?_⟩
  rw [hnames]
  omega

theorem push_grows (r : Reader) (e : Expr) : r.Grows (r.push e) := by
  refine .of_slots rfl ?_
  simp only [slots, push, itemSlots_cons]
  omega

theorem openGroup_grows (r : Reader) (capturing : Bool) (flags : Flags) :
    r.Grows (r.openGroup capturing flags) := by
  refine .of_slots rfl ?_
  simp only [slots, openGroup, List.map_cons, List.sum_cons, itemSlots, List.map_nil, List.sum_nil]
  omega

theorem named?_grows {r r' : Reader} {s s' : List Char} (h : r.named? s = some (r', s')) :
    r.Grows r' := by
  unfold named? at h
  obtain ⟨⟨name, rest⟩, _, h⟩ := Option.bind_eq_some_iff.mp h
  dsimp only at h
  split_ifs at h with hused
  cases h
  refine ⟨List.suffix_cons _ _, fun hnodup => List.nodup_cons.mpr ⟨by simpa using hused, hnodup⟩, ?_⟩
  simp only [Reader.slots, openGroup, List.map_cons, List.sum_cons, itemSlots, List.map_nil, List.sum_nil,
    List.length_cons, if_true]
  omega

theorem opened?_grows {r r' : Reader} {s s' : List Char} (h : r.opened? s = some (r', s')) :
    r.Grows r' := by
  unfold opened? at h
  split at h
  case h_1 | h_2 | h_3 | h_4 => cases h
  case h_5 | h_6 => exact named?_grows h
  case h_7 =>
    split at h
    · cases h
    · split_ifs at h
      · cases h
        exact openGroup_grows _ _ _
      · cases h
        refine .of_slots rfl ?_
        simp only [slots, itemSlots_cons, Option.map_none, Option.getD_none]
        omega
  case h_8 =>
    cases h
    exact openGroup_grows _ _ _

theorem closeGroup?_grows {r r' : Reader} (h : r.closeGroup? = some r') : r.Grows r' := by
  obtain ⟨flags, names, branches, items, outer⟩ := r
  cases outer with
  | nil => cases h
  | cons g outer =>
    cases h
    refine .of_slots rfl ?_
    have hcurrent := slots_current ⟨flags, names, branches, items, g :: outer⟩
    cases hg : g.capturing
    all_goals
      simp only [slots, itemSlots_cons, List.map_cons, List.sum_cons, hg, if_true, Bool.false_eq_true,
        if_false, Option.map_some, Option.getD_some, Expr.slots, hcurrent]
      omega

theorem repeat?_grows {r r' : Reader} {lo : Nat} {hi : Option Nat} {lazily : Bool}
    (h : r.repeat? lo hi lazily = some r') : r.Grows r' := by
  obtain ⟨flags, names, branches, items, outer⟩ := r
  match items with
  | [] | none :: _ => cases h
  | some e :: items =>
    cases h
    exact .of_slots rfl (Nat.le_refl _)

theorem token?_grows {r r' : Reader} {c : Char} {s s' : List Char}
    (h : r.token? c s = some (r', s')) : r.Grows r' := by
  unfold token? at h
  split at h
  · exact opened?_grows h
  · obtain ⟨r', hr, h⟩ := Option.map_eq_some_iff.mp h
    cases h
    exact closeGroup?_grows hr
  · cases h
    refine .of_slots rfl ?_
    simp only [slots, bar, itemSlots, List.map_cons, List.sum_cons, List.map_nil, List.sum_nil,
      slots_branch]
    omega
  · obtain ⟨⟨set, rest⟩, hclass, h⟩ := Option.map_eq_some_iff.mp h
    cases h
    exact push_grows _ _
  case h_5 | h_6 | h_7 =>
    obtain ⟨r', hr, h⟩ := Option.map_eq_some_iff.mp h
    cases h
    exact repeat?_grows hr
  case h_8 =>
    obtain ⟨⟨⟨lo, hi⟩, rest⟩, hbounds, h⟩ := Option.bind_eq_some_iff.mp h
    obtain ⟨r'', hr, h⟩ := Option.bind_eq_some_iff.mp h
    cases h
    exact repeat?_grows hr
  case h_9 =>
    obtain ⟨⟨e, rest⟩, hescape, h⟩ := Option.map_eq_some_iff.mp h
    cases h
    exact push_grows _ _
  case h_10 =>
    obtain ⟨e, hdot, h⟩ := Option.map_eq_some_iff.mp h
    cases h
    exact push_grows _ _
  all_goals
    cases h
    exact push_grows _ _

theorem read_cases {n : Nat} {r r' : Reader} {s : List Char} (h : read n r s = some r') :
    (r.flags.skip s = [] ∧ r' = r) ∨
      ∃ m c rest r'' rest', n = m + 1 ∧ r.flags.skip s = c :: rest ∧
        r.token? c rest = some (r'', rest') ∧ read m r'' rest' = some r' := by
  rw [read.eq_def] at h
  dsimp only at h
  cases hskip : r.flags.skip s with
  | nil =>
    rw [hskip] at h
    cases h
    exact .inl ⟨rfl, rfl⟩
  | cons c rest =>
    rw [hskip] at h
    cases n with
    | zero => cases h
    | succ m =>
      obtain ⟨⟨r'', rest'⟩, htoken, h⟩ := Option.bind_eq_some_iff.mp h
      exact .inr ⟨m, c, rest, r'', rest', rfl, rfl, htoken, h⟩

theorem read_grows {n : Nat} {r r' : Reader} {s : List Char} (h : read n r s = some r') :
    r.Grows r' := by
  induction n generalizing r s with
  | zero =>
    rcases read_cases h with ⟨_, rfl⟩ | ⟨m, _, _, _, _, hn, _⟩
    · exact .refl _
    · cases hn
  | succ n ih =>
    rcases read_cases h with ⟨_, rfl⟩ | ⟨m, _, _, r'', _, hn, _, htoken, hread⟩
    · exact .refl _
    · cases hn
      exact (token?_grows htoken).trans (ih hread)

theorem read_of_skip {fuel : Nat} {r : Reader} {s s' : List Char}
    (h : r.flags.skip s = r.flags.skip s') : read fuel r s = read fuel r s' := by
  cases fuel <;> rw [read, read, h]

theorem read_cons {fuel : Nat} {r : Reader} {c : Char} {s rest : List Char}
    (h : r.flags.skip s = c :: rest) :
    read (fuel + 1) r s = (r.token? c rest).bind fun (r, rest) => read fuel r rest := by
  rw [read, h]
  rfl

/-- Reading `text t` takes `m` tokens, leads from one reader to the other and leaves `after t`, also
inside other groups. Only a name that is taken there keeps the text from being read. -/
def Passes (m : Nat) (r r' : Reader) (text after : List Char → List Char) : Prop :=
  ∀ names outer fuel t, Halting (after t) →
    read (m + fuel) (r.within names outer) (text t) =
        read fuel (r'.within names outer) (after t) ∨
      (¬(r'.within names outer).names.Nodup ∧
        read (m + fuel) (r.within names outer) (text t) = none)

theorem passes_skip {r : Reader} {text after : List Char → List Char}
    (h : ∀ t, Halting (after t) → r.flags.skip (text t) = after t) : Passes 0 r r text after := by
  intro names outer fuel t ht
  rw [Nat.zero_add]
  refine .inl (read_of_skip ?_)
  rw [flags_within, h t ht, Flags.skip_halting ht]

/-- One more token in front. -/
theorem Passes.cons {m : Nat} {r r' r'' : Reader} {c : Char}
    {text rest text' after : List Char → List Char}
    (hskip : ∀ t, r.flags.skip (text t) = c :: rest t)
    (htoken : ∀ t, Halting (after t) → r.token? c (rest t) = some (r', text' t))
    (hnames : r'.names <:+ r''.names) (h : Passes m r' r'' text' after) :
    Passes (m + 1) r r'' text after := by
  intro names outer fuel t ht
  have hin : (r.within names outer).flags.skip (text t) = c :: rest t := hskip t
  rw [Nat.add_right_comm, read_cons hin]
  rcases token?_within names outer (htoken t ht) with hin | ⟨hin, hne⟩
  · rw [hin]
    exact h names outer fuel t ht
  · rw [hin]
    obtain ⟨more, hmore⟩ := hnames
    refine .inr ⟨fun hnodup => hne (hnodup.sublist ?_), rfl⟩
    rw [names_within, names_within, ← hmore, List.append_assoc]
    exact List.sublist_append_right more _

theorem passes_of_skip_eq_nil {r : Reader} {s : List Char} (h : r.flags.skip s = []) :
    Passes 0 r r (s ++ ')' :: ·) (')' :: ·) ∨
      (r.flags.verbose = true ∧ Passes 0 r r (s ++ ')' :: ·) (skipVerbose true)) := by
  have hcont := r.flags.skip_continues s
  rw [h] at hcont
  rcases hcont with hc | ⟨hv, _, hopen⟩
  · exact .inl (passes_skip fun t _ => hc t)
  · exact .inr ⟨hv, passes_skip hopen⟩

/-- A text that is read to its end by itself is read as far before a closing parenthesis, unless a
comment is open at the end, which goes on then. -/
theorem read_passes {n : Nat} {r r' : Reader} {s : List Char} (h : read n r s = some r') :
    ∃ m ≤ n, Passes m r r' (s ++ ')' :: ·) (')' :: ·) ∨
      (r'.flags.verbose = true ∧ Passes m r r' (s ++ ')' :: ·) (skipVerbose true)) := by
  induction n generalizing r s with
  | zero =>
    rcases read_cases h with ⟨hskip, rfl⟩ | ⟨m, _, _, _, _, hn, _⟩
    · exact ⟨0, Nat.le_refl _, passes_of_skip_eq_nil hskip⟩
    · cases hn
  | succ n ih =>
    rcases read_cases h with ⟨hskip, rfl⟩ | ⟨m, c, rest, r'', rest', hn, hskip, htoken, hread⟩
    · exact ⟨0, Nat.zero_le _, passes_of_skip_eq_nil hskip⟩
    · cases hn
      have happ : ∀ t, r.flags.skip (s ++ ')' :: t) = c :: (rest ++ ')' :: t) := by
        intro t
        rw [Flags.skip_append (by simp [hskip]), hskip, List.cons_append]
      have hnames := (read_grows hread).suffix
      -- A token that looks behind a comment which is open at the end is the last one.
      rcases token?_continues htoken with hc | ⟨hv, rfl, hopen⟩
      · obtain ⟨m, hm, hp⟩ := ih hread
        refine ⟨m + 1, by omega, ?_⟩
        rcases hp with hp | ⟨hv, hp⟩
        · exact .inl (hp.cons happ (fun t _ => hc t) hnames)
        · exact .inr ⟨hv, hp.cons happ (fun t _ => hc t) hnames⟩
      · have hr : r' = r'' := by
          rcases read_cases hread with ⟨_, he⟩ | ⟨_, _, _, _, _, _, hnil, _⟩
          · exact he
          · rw [Flags.skip_nil] at hnil
            cases hnil
        subst hr
        exact ⟨1, by omega, .inr ⟨hv, (passes_skip fun t ht => Flags.skip_halting ht).cons happ hopen
          (List.suffix_refl _)⟩⟩

end Reader
end Routing.Pattern
