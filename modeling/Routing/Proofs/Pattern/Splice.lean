import Routing.Proofs.Pattern.Enclosing

/-! Patterns put together from quoted texts and from patterns in parentheses: what is read is the
sequence of what the parts are by themselves. -/
namespace Routing.Pattern

namespace Reader

/-- Reading the text leads from one reader to the other, whatever follows, if no name comes twice. -/
def Reads (r r' : Reader) (s : List Char) : Prop :=
  r.names <:+ r'.names ∧ ∃ m ≤ s.length, ∀ fuel t,
    read (m + fuel) r (s ++ t) = read fuel r' t ∨
      (¬r'.names.Nodup ∧ read (m + fuel) r (s ++ t) = none)

theorem Reads.refl (r : Reader) : Reads r r [] :=
  ⟨List.suffix_refl _, 0, Nat.le_refl _, fun fuel t => .inl (by rw [Nat.zero_add]; rfl)⟩

theorem Reads.trans {r r' r'' : Reader} {s s' : List Char} (h : Reads r r' s)
    (h' : Reads r' r'' s') : Reads r r'' (s ++ s') := by
  obtain ⟨hnames, m, hm, h⟩ := h
  obtain ⟨hnames', m', hm', h'⟩ := h'
  refine ⟨hnames.trans hnames', m + m', by rw [List.length_append]; omega, fun fuel t => ?_⟩
  rw [Nat.add_assoc, List.append_assoc]
  rcases h (m' + fuel) (s' ++ t) with h | ⟨htwice, h⟩
  · rw [h]
    exact h' fuel t
  · exact .inr ⟨fun hnodup => htwice (hnodup.sublist hnames'.sublist), h⟩

/-- One token. -/
theorem Reads.token {r r' : Reader} {c : Char} {s : List Char} (hv : r.flags.verbose = false)
    (hnames : r'.names = r.names) (h : ∀ t, r.token? c (s ++ t) = some (r', t)) :
    Reads r r' (c :: s) := by
  refine ⟨hnames ▸ List.suffix_refl _, 1, by simp, fun fuel t => .inl ?_⟩
  have hskip : r.flags.skip (c :: s ++ t) = c :: (s ++ t) := Flags.skip_of_not_verbose hv _
  rw [Nat.add_comm, read_cons hskip, h t]
  rfl

theorem read_nil (fuel : Nat) (r : Reader) : read fuel r [] = some r := by
  rw [read.eq_def]
  dsimp only
  rw [Flags.skip_nil]

/-- The text of a whole pattern is read exactly if no name comes twice. -/
theorem Reads.parse?_eq {r : Reader} {s : List Char} (h : Reads {} r s) :
    Expr.parse? s = if r.names.Nodup then r.finish? else none := by
  obtain ⟨_, m, hm, h⟩ := h
  unfold Expr.parse?
  rcases h (s.length - m) [] with h | ⟨htwice, h⟩
  all_goals rw [List.append_nil, Nat.add_sub_cancel' hm] at h
  · rw [read_nil] at h
    rw [if_pos ((read_grows h).nodup List.nodup_nil), h]
    rfl
  · rw [if_neg htwice, h]
    rfl

/-- Read at any place where the flags are those of a new pattern, the text adds the expressions to the
branch there, and takes the names. -/
def Adds (s : List Char) (names : List (List Char)) (es : List Expr) : Prop :=
  ∀ r : Reader, r.flags = {} →
    Reads r { r with names := names ++ r.names, items := (es.map some).reverse ++ r.items } s

theorem Adds.nil : Adds [] [] [] := fun r _ => .refl r

theorem Adds.append {s s' : List Char} {names names' : List (List Char)} {es es' : List Expr}
    (h : Adds s names es) (h' : Adds s' names' es') :
    Adds (s ++ s') (names' ++ names) (es ++ es') := by
  intro r hr
  have hs := (h r hr).trans (h' _ hr)
  simpa only [List.map_append, List.reverse_append, List.append_assoc] using hs

/-- Texts one after the other. -/
theorem Adds.flatMap {ι : Type} {l : List ι} {text : ι → List Char} {names : ι → List (List Char)}
    {es : ι → List Expr} (h : ∀ i ∈ l, Adds (text i) (names i) (es i)) :
    Adds (l.flatMap text) (l.reverse.flatMap names) (l.flatMap es) := by
  induction l with
  | nil => exact .nil
  | cons i l ih =>
    rw [List.flatMap_cons, List.flatMap_cons, List.reverse_cons, List.flatMap_append,
      List.flatMap_singleton]
    exact (h i List.mem_cons_self).append (ih fun k hk => h k (List.mem_cons_of_mem i hk))

theorem Adds.of_token {c : Char} {s : List Char} {e : Expr}
    (h : ∀ r : Reader, r.flags = {} → ∀ t, r.token? c (s ++ t) = some (r.push e, t)) :
    Adds (c :: s) [] [e] :=
  fun r hr => Reads.token (by rw [hr]) rfl (h r hr)

theorem adds_textStart : Adds ['^'] [] [.look .textStart] :=
  .of_token fun r hr t => by simp [token?, lineStart, hr]

theorem adds_textEnd : Adds ['$'] [] [.look .textEnd] :=
  .of_token fun r hr t => by simp [token?, lineEnd, hr]

theorem token?_plain {r : Reader} {c : Char} (h : Escape.isMeta c = false) (t : List Char) :
    r.token? c t = some (r.push (literal r.flags c), t) := by
  unfold token?
  split
  case h_13 => rfl
  all_goals exact absurd h (by decide)

theorem adds_quote (text : List Char) :
    Adds (Escape.quote text) [] (text.map fun c => .chars (.single c)) := by
  induction text with
  | nil => exact .nil
  | cons c text ih =>
    suffices hone : Adds (if Escape.isMeta c then ['\\', c] else [c]) [] [.chars (.single c)] from
      hone.append ih
    by_cases hc : Escape.isMeta c = true
    · rw [if_pos hc]
      refine .of_token fun r hr t => ?_
      have hq : Escape.isQuotable c = true := by simp [Escape.isQuotable, hc]
      simp [token?, Escape.read, hq, escapeExpr, literal, Flags.fold, hr]
    · rw [if_neg hc]
      refine .of_token fun r hr t => ?_
      rw [List.nil_append, token?_plain (by simpa using hc)]
      simp [literal, Flags.fold, hr]

theorem branch_map_some (es : List Expr) : branch (es.map some).reverse = Expr.seqAll es := by
  unfold branch
  rw [List.reverse_reverse, List.filterMap_map]
  simp

/-- A pattern by itself cannot begin with a question mark. -/
theorem read_ne_mark {n : Nat} {r' : Reader} {f : List Char} (h : read n {} f = some r')
    (rest : List Char) : f ≠ '?' :: rest := by
  rintro rfl
  rcases read_cases h with ⟨hskip, _⟩ | ⟨m, c, rest', r'', rest'', _, hskip, htoken, _⟩
  · cases hskip
  · cases hskip
    cases htoken

theorem token?_group {n : Nat} {r r' : Reader} {f : List Char} (h : read n {} f = some r')
    (hr : r.flags = {}) (t : List Char) :
    r.token? '(' (f ++ ')' :: t) = some (Reader.within {} r.names
      (⟨true, r.flags, r.branches, r.items⟩ :: r.outer), f ++ ')' :: t) := by
  have hplain : ∀ rest, f ++ ')' :: t ≠ '?' :: rest := by
    intro rest he
    cases f with
    | nil => simp at he
    | cons c f => exact read_ne_mark h f (by rw [(List.cons_eq_cons.mp he).1])
  change r.opening? _ = _
  rw [opening?_eq, hr, Flags.skip_of_not_verbose rfl, opened?_plain r hplain]
  simp [openGroup, within, hr]

/-- In parentheses, a pattern is a group around what it is by itself. If a comment is open at its end,
the text `s` has to end the comment and bring another parenthesis. -/
theorem adds_group {m n : Nat} {r' : Reader} {f s : List Char} {after : List Char → List Char}
    (h : read n {} f = some r') (hm : m ≤ f.length) (houter : r'.outer = [])
    (hp : Passes m {} r' (f ++ ')' :: ·) after) (hs : ∀ t, after (s ++ t) = ')' :: t) :
    Adds ('(' :: f ++ ')' :: s) r'.names [.group r'.current] := by
  refine fun r hr => ⟨List.suffix_append _ _, m + 2, by simp; omega, fun fuel t => ?_⟩
  have hskip (s : List Char) : r.flags.skip s = s := Flags.skip_of_not_verbose (by rw [hr]) s
  have hfuel : m + 2 + fuel = m + (fuel + 1) + 1 := by omega
  have htext : '(' :: f ++ ')' :: s ++ t = '(' :: (f ++ ')' :: (s ++ t)) := by simp
  have hhalting : Halting (after (s ++ t)) := .inr ⟨t, hs t⟩
  rw [hfuel, htext, read_cons (hskip _), token?_group h hr]
  rcases hp r.names (⟨true, r.flags, r.branches, r.items⟩ :: r.outer) (fuel + 1) (s ++ t)
    hhalting with hp | ⟨htwice, hp⟩
  · left
    dsimp only [Option.bind_some] at hp ⊢
    rw [hp, hs, read_cons (Flags.skip_halting (.inr ⟨t, rfl⟩))]
    simp [token?, closeGroup?, within, houter, current]
  · exact .inr ⟨htwice, hp⟩

/-- In parentheses and nothing behind them, a comment that is open at the end leaves the group open. -/
theorem parse?_swallowed {m n : Nat} {r' : Reader} {f : List Char} (h : read n {} f = some r')
    (hm : m ≤ f.length) (hp : Passes m {} r' (f ++ ')' :: ·) (skipVerbose true)) :
    Expr.parse? ('(' :: f ++ [')']) = none := by
  have hskip (s : List Char) : ({} : Reader).flags.skip s = s := Flags.skip_of_not_verbose rfl s
  have hfuel : ('(' :: f ++ [')']).length = m + (f.length + 1 - m) + 1 := by
    rw [List.length_append, List.length_cons, List.length_singleton]
    omega
  unfold Expr.parse?
  rw [hfuel, List.cons_append, read_cons (hskip _), token?_group h rfl]
  rcases hp [] [⟨true, {}, [], []⟩] (f.length + 1 - m) [] (.inl rfl) with hp | ⟨_, hp⟩
  · dsimp only [Option.bind_some] at hp ⊢
    rw [hp]
    simp [skipVerbose, read_nil, finish?, within]
  · dsimp only [Option.bind_some] at hp ⊢
    rw [hp]
    rfl

/-- Branches with bars between them. -/
theorem reads_branches {ι : Type} {l : List ι} {text : ι → List Char}
    {names : ι → List (List Char)} {es : ι → List Expr} (hne : l ≠ [])
    (h : ∀ i ∈ l, Adds (text i) (names i) (es i)) {r : Reader} (hr : r.flags = {})
    (hitems : r.items = []) :
    ∃ r', Reads r r' (['|'].intercalate (l.map text)) ∧ r'.flags = {} ∧ r'.outer = r.outer ∧
      r'.names = l.reverse.flatMap names ++ r.names ∧
      (branch r'.items :: r'.branches).reverse =
        r.branches.reverse ++ l.map fun i => Expr.seqAll (es i) := by
  induction l generalizing r with
  | nil => exact absurd rfl hne
  | cons i l ih =>
    have hfirst := h i List.mem_cons_self r hr
    rw [hitems, List.append_nil] at hfirst
    cases l with
    | nil =>
      have htext : ['|'].intercalate ([i].map text) = text i := by simp [List.intercalate]
      rw [htext]
      exact ⟨_, hfirst, hr, rfl, by simp, by simp [branch_map_some]⟩
    | cons k l =>
      obtain ⟨r', hreads, hflags, houter, hnames, hbranches⟩ :=
        ih (List.cons_ne_nil _ _) (fun k hk => h k (List.mem_cons_of_mem i hk))
          (r := bar { r with names := names i ++ r.names, items := ((es i).map some).reverse }) hr rfl
      have hbar : Reads { r with names := names i ++ r.names, items := ((es i).map some).reverse }
          (bar { r with names := names i ++ r.names, items := ((es i).map some).reverse }) ['|'] :=
        .token (by rw [hr]) rfl fun t => rfl
      refine ⟨r', ?_, hflags, houter, ?_, ?_⟩
      · simpa [List.intercalate] using hfirst.trans (hbar.trans hreads)
      · rw [hnames]
        simp [bar]
      · rw [hbranches]
        simp [bar, branch_map_some]

theorem closeGroup?_eq {r : Reader} {g : OpenGroup} {outer : List OpenGroup}
    (h : r.outer = g :: outer) :
    r.closeGroup? = some { g with
      names := r.names
      items := some (if g.capturing then .group r.current else r.current) :: g.items
      outer } := by
  unfold closeGroup?
  rw [h]

/-- A group that does not capture, around branches. -/
theorem adds_choice {ι : Type} {l : List ι} {text : ι → List Char}
    {names : ι → List (List Char)} {es : ι → List Expr} (hne : l ≠ [])
    (h : ∀ i ∈ l, Adds (text i) (names i) (es i)) :
    Adds (['(', '?', ':'] ++ ['|'].intercalate (l.map text) ++ [')']) (l.reverse.flatMap names)
      [.altAll (l.map fun i => .seqAll (es i))] := by
  intro r hr
  obtain ⟨r', hreads, hflags, houter, hnames, hbranches⟩ :=
    reads_branches hne h (r := r.openGroup false {}) rfl rfl
  have hopen : Reads r (r.openGroup false {}) ['(', '?', ':'] := by
    refine .token (by rw [hr]) rfl fun t => ?_
    change r.opening? _ = _
    rw [opening?_eq, hr]
    simp [opened?, readFlags, Flags.skip, hr]
  have hclose : Reads r' { r with
      names := l.reverse.flatMap names ++ r.names
      items := some (.altAll (l.map fun i => .seqAll (es i))) :: r.items } [')'] := by
    have hcurrent : r'.current = .altAll (l.map fun i => .seqAll (es i)) := by
      unfold current
      rw [hbranches]
      rfl
    refine .token (by rw [hflags]) (by rw [hnames]; rfl) fun t => ?_
    change r'.closeGroup?.map _ = _
    rw [closeGroup?_eq houter, hcurrent, hnames]
    rfl
  exact (hopen.trans hreads).trans hclose

/-- A whole pattern, unless a name comes twice. -/
theorem Adds.parse?_eq {s : List Char} {names : List (List Char)} {es : List Expr}
    (h : Adds s names es) :
    Expr.parse? s = if names.Nodup then some (.seqAll es) else none := by
  have hall := (h {} rfl).parse?_eq
  simp only [finish?, current, List.append_nil, branch_map_some] at hall
  exact hall

theorem Adds.parse?_eq_some {s : List Char} {names : List (List Char)} {es : List Expr}
    (h : Adds s names es) {e : Expr} :
    Expr.parse? s = some e ↔ names.Nodup ∧ e = .seqAll es := by
  rw [h.parse?_eq]
  split_ifs with hnodup
  · simp [hnodup, eq_comm]
  · simp [hnodup]

end Reader
end Routing.Pattern
