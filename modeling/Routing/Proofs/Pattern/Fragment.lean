import Routing.Pattern
import Routing.Proofs.Pattern.Splice

/-! Patterns as parts of another pattern: which of them are the same group in parentheses, wherever the
parentheses stand. -/
namespace Routing.Pattern

/-- The readers that reading goes through. -/
def Reader.trace : Nat → Reader → List Char → List Reader
  | 0, r, _ => [r]
  | fuel + 1, r, s =>
    r :: match r.flags.skip s with
      | [] => []
      | c :: rest =>
        match r.token? c rest with
        | none => []
        | some (r, rest) => trace fuel r rest

/-- Nowhere does the pattern turn on that blanks and comments are skipped. -/
def Quiet (source : String) : Prop :=
  ∀ r ∈ Reader.trace source.toList.length {} source.toList, r.flags.verbose = false

instance (source : String) : Decidable (Quiet source) :=
  inferInstanceAs (Decidable (∀ r ∈ _, _))

/-- In parentheses, the pattern is one group without groups in it. -/
def SelfContained (source : String) : Prop :=
  (compile? ("(" ++ source ++ ")")).map (·.expr.slots) = some 1

instance (source : String) : Decidable (SelfContained source) :=
  inferInstanceAs (Decidable (_ = _))

/-- The expression of the pattern by itself. -/
def own (source : String) : Expr :=
  ((compile? source).map Pattern.expr).getD .empty

theorem own_nil : own "" = .empty := by decide

/-- The names of the groups in the pattern, the last one first. -/
def groupNames (source : String) : List (List Char) :=
  ((Reader.read source.toList.length {} source.toList).map Reader.names).getD []

/-- In parentheses, the pattern is a group around what it is by itself, wherever they stand. Names are
those of groups in it. -/
def Encloses (source : String) : Prop :=
  ∃ names : List (List Char), names.Nodup ∧ names.length ≤ (own source).slots ∧
    Reader.Adds ('(' :: source.toList ++ [')']) names [.group (own source)]

open Reader

theorem mem_trace {n : Nat} {r r' : Reader} {s : List Char} (h : read n r s = some r') :
    r' ∈ trace n r s := by
  induction n generalizing r s with
  | zero =>
    rcases read_cases h with ⟨_, rfl⟩ | ⟨_, _, _, _, _, hn, _⟩
    · exact List.mem_singleton_self _
    · cases hn
  | succ n ih =>
    rcases read_cases h with ⟨_, rfl⟩ | ⟨m, c, rest, r'', rest', hn, hskip, htoken, hread⟩
    · exact List.mem_cons_self
    · cases hn
      simp only [trace, hskip, htoken]
      exact List.mem_cons_of_mem _ (ih hread)

/-- A pattern by itself leaves no group open. -/
theorem compile?_read {source : String} {p : Pattern} (h : compile? source = some p) :
    ∃ r, read source.toList.length {} source.toList = some r ∧ r.outer = [] ∧
      r.current = p.expr ∧ own source = p.expr := by
  have hown : own source = p.expr := by
    unfold own
    rw [h]
    rfl
  obtain ⟨e, he, hp⟩ := Option.map_eq_some_iff.mp h
  obtain ⟨r, hr, hfinish⟩ := Option.bind_eq_some_iff.mp he
  unfold finish? at hfinish
  split_ifs at hfinish with houter
  refine ⟨r, hr, List.isEmpty_iff.mp houter, ?_, hown⟩
  rw [← hp]
  exact Option.some.inj hfinish

theorem nodup_groupNames (source : String) : (groupNames source).Nodup := by
  unfold groupNames
  cases hread : read source.toList.length {} source.toList with
  | none => exact List.nodup_nil
  | some r => exact (read_grows hread).nodup List.nodup_nil

/-- Every name is that of a group. -/
theorem length_groupNames_le {source : String} {p : Pattern} (h : compile? source = some p) :
    (groupNames source).length ≤ (own source).slots := by
  obtain ⟨r, hread, houter, hcurrent, hown⟩ := compile?_read h
  have hnames : groupNames source = r.names := by
    unfold groupNames
    rw [hread]
    rfl
  have hslots := (read_grows hread).slots
  have hnone : ({} : Reader).slots = 0 := rfl
  have hall : r.slots = (own source).slots := by
    rw [hown, ← hcurrent, slots_current, slots, houter]
    rfl
  rw [hnone, hall] at hslots
  rw [hnames]
  exact hslots.trans (by simp)

theorem groupNames_eq_nil {source : String} {p : Pattern} (h : compile? source = some p)
    (hslots : (own source).slots = 0) : groupNames source = [] := by
  have hlength := length_groupNames_le h
  rw [hslots] at hlength
  exact List.length_eq_zero_iff.mp (Nat.le_zero.mp hlength)

/-- In parentheses, the pattern is read as the group around what it is by itself, with its names, wherever
the parentheses stand, unless a comment is open at its end. -/
theorem adds_or_swallows {source : String} {p : Pattern} (h : compile? source = some p) :
    Adds ('(' :: source.toList ++ [')']) (groupNames source) [.group (own source)] ∨
      ∃ r m, m ≤ source.toList.length ∧ read source.toList.length {} source.toList = some r ∧
        r.outer = [] ∧ r.current = own source ∧ r.flags.verbose = true ∧
        Passes m {} r (source.toList ++ ')' :: ·) (skipVerbose true) := by
  obtain ⟨r, hread, houter, hcurrent, hown⟩ := compile?_read h
  rw [← hown] at hcurrent
  obtain ⟨m, hm, hp | ⟨hverbose, hp⟩⟩ := read_passes hread
  · left
    unfold groupNames
    rw [hread, ← hcurrent]
    exact adds_group hread hm houter hp fun t => rfl
  · exact .inr ⟨r, m, hm, hread, houter, hcurrent, hverbose, hp⟩

theorem encloses_of_adds {source : String} {p : Pattern} (h : compile? source = some p)
    (hadds : Adds ('(' :: source.toList ++ [')']) (groupNames source) [.group (own source)]) :
    Encloses source :=
  ⟨groupNames source, nodup_groupNames source, length_groupNames_le h, hadds⟩

/-- The names that a pattern brings are those that it has by itself. -/
theorem Encloses.adds {source : String} {p : Pattern} (henc : Encloses source)
    (h : compile? source = some p) :
    Adds ('(' :: source.toList ++ [')']) (groupNames source) [.group (own source)] := by
  rcases adds_or_swallows h with hadds | ⟨r, m, hm, hread, -, -, -, hp⟩
  · exact hadds
  · obtain ⟨names, hnodup, -, hadds⟩ := henc
    have hnone := parse?_swallowed hread hm hp
    rw [hadds.parse?_eq, if_pos hnodup] at hnone
    cases hnone

theorem encloses_of_quiet {source : String} {p : Pattern} (h : compile? source = some p)
    (hq : Quiet source) : Encloses source := by
  rcases adds_or_swallows h with hadds | ⟨r, _, _, hread, _, _, hverbose, _⟩
  · exact encloses_of_adds h hadds
  · have hquiet := hq r (mem_trace hread)
    rw [hverbose] at hquiet
    cases hquiet

/-- A pattern without groups and without comments adds one group, and no name. -/
theorem adds_of_quiet (source : String) (h : (compile? source).isSome = true) (hq : Quiet source)
    (hslots : (own source).slots = 0) :
    Adds ('(' :: source.toList ++ [')']) [] [.group (own source)] := by
  obtain ⟨p, hp⟩ := Option.isSome_iff_exists.mp h
  have hadds := (encloses_of_quiet hp hq).adds hp
  rwa [groupNames_eq_nil hp hslots] at hadds

theorem toList_parenthesized (source : String) :
    ("(" ++ source ++ ")").toList = '(' :: source.toList ++ [')'] := by
  simp

/-- A pattern that parentheses enclose takes the group numbers that it takes by itself. -/
theorem Encloses.selfContained_iff {source : String} (h : Encloses source) :
    SelfContained source ↔ (own source).slots = 0 := by
  obtain ⟨names, hnodup, _, hadds⟩ := h
  unfold SelfContained compile?
  rw [toList_parenthesized, hadds.parse?_eq, if_pos hnodup]
  simp [Expr.seqAll, Expr.slots]

theorem SelfContained.encloses {source : String} {p : Pattern} (h : compile? source = some p)
    (hself : SelfContained source) : Encloses source := by
  rcases adds_or_swallows h with hadds | ⟨r, m, hm, hread, _, _, _, hp⟩
  · exact encloses_of_adds h hadds
  · unfold SelfContained compile? at hself
    rw [toList_parenthesized, parse?_swallowed hread hm hp] at hself
    cases hself

end Routing.Pattern
