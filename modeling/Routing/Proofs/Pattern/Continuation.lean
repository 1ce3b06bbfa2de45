import Mathlib.Data.List.TakeWhile
import Mathlib.Tactic.SplitIfs
import Routing.Pattern.Reader

/-! What readers take from a text, they take from the text with a closing parenthesis behind it,
unless a comment at the end swallows the parenthesis. -/
namespace Routing.Pattern

/-- At the beginning of such a text every reader stops. -/
def Halting (u : List Char) : Prop := u = [] ∨ ∃ t, u = ')' :: t

/-- How a reader that left `rest` goes on when a closing parenthesis and more text `t` follow: with the
longer rest, or, if a comment was open at the end, with what stands behind the comment. -/
def Continues (flags : Flags) (rest : List Char) (goal : List Char → List Char → Prop) : Prop :=
  (∀ t, goal t (rest ++ ')' :: t)) ∨
    (flags.verbose = true ∧ rest = [] ∧
      ∀ t, Halting (skipVerbose true t) → goal t (skipVerbose true t))

variable {flags : Flags}

theorem Continues.imp {rest : List Char} {goal goal' : List Char → List Char → Prop}
    (h : Continues flags rest goal) (himp : ∀ t u, goal t u → goal' t u) :
    Continues flags rest goal' := by
  rcases h with h | ⟨hv, hnil, h⟩
  · exact .inl fun t => himp t _ (h t)
  · exact .inr ⟨hv, hnil, fun t ht => himp t _ (h t ht)⟩

theorem Continues.of_ne_nil {rest : List Char} {goal : List Char → List Char → Prop}
    (h : Continues flags rest goal) (hne : rest ≠ []) (t : List Char) : goal t (rest ++ ')' :: t) := by
  rcases h with h | ⟨_, hnil, _⟩
  · exact h t
  · exact absurd hnil hne

theorem skipVerbose_append (b : Bool) (s : List Char) :
    (∀ t, skipVerbose b (s ++ ')' :: t) = skipVerbose b s ++ ')' :: t) ∨
      (skipVerbose b s = [] ∧ ∀ t, skipVerbose b (s ++ ')' :: t) = skipVerbose true t) := by
  induction s generalizing b with
  | nil =>
    cases b with
    | true => exact .inr ⟨rfl, fun t => rfl⟩
    | false => exact .inl fun t => rfl
  | cons c s ih =>
    cases b with
    | true => exact ih (c != '\n')
    | false =>
      simp only [skipVerbose, List.cons_append]
      split_ifs
      · exact ih false
      · exact ih true
      · exact .inl fun t => rfl

theorem Flags.skip_continues (flags : Flags) (s : List Char) :
    Continues flags (flags.skip s) fun t u => flags.skip (s ++ ')' :: t) = u := by
  unfold Flags.skip
  split_ifs with hv
  · rcases skipVerbose_append false s with h | ⟨hnil, h⟩
    · exact .inl h
    · exact .inr ⟨hv, hnil, fun t _ => h t⟩
  · exact .inl fun t => rfl

/-- Where something is left behind what is skipped, the same is skipped of the longer text. -/
theorem Flags.skip_append {s : List Char} (h : flags.skip s ≠ []) (t : List Char) :
    flags.skip (s ++ ')' :: t) = flags.skip s ++ ')' :: t :=
  (flags.skip_continues s).of_ne_nil h t

theorem Flags.skip_nil (flags : Flags) : flags.skip [] = [] := by
  unfold Flags.skip
  split_ifs <;> rfl

theorem Flags.skip_halting {u : List Char} (h : Halting u) : flags.skip u = u := by
  rcases h with rfl | ⟨t, rfl⟩
  · exact flags.skip_nil
  · unfold Flags.skip
    split_ifs <;> rfl

theorem cons_of_append_eq {s t rest : List Char} {c : Char} (hs : s ≠ [])
    (h : s ++ ')' :: t = c :: rest) : ∃ u, s = c :: u := by
  cases s with
  | nil => exact absurd rfl hs
  | cons d s => exact ⟨s, by rw [(List.cons_eq_cons.mp h).1]⟩

theorem cons_cons_of_append_eq {s t rest : List Char} {c d : Char} (hs : s ≠ []) (hd : d ≠ ')')
    (h : s ++ ')' :: t = c :: d :: rest) : ∃ u, s = c :: d :: u := by
  obtain ⟨u, rfl⟩ := cons_of_append_eq hs h
  have hu := (List.cons_eq_cons.mp h).2
  have hne : u ≠ [] := by
    rintro rfl
    exact hd (List.cons_eq_cons.mp hu).1.symm
  obtain ⟨v, rfl⟩ := cons_of_append_eq hne hu
  exact ⟨v, rfl⟩

theorem dropWhile_append_of_ne_nil {p : Char → Bool} {s : List Char} (h : s.dropWhile p ≠ [])
    (u : List Char) : (s ++ u).dropWhile p = s.dropWhile p ++ u := by
  rw [List.dropWhile_append, if_neg (by simpa using h)]

theorem takeWhile_append_of_ne_nil {p : Char → Bool} {s : List Char} (h : s.dropWhile p ≠ [])
    (u : List Char) : (s ++ u).takeWhile p = s.takeWhile p := by
  rw [List.takeWhile_append, if_neg]
  intro hlen
  have hself := congrArg List.length (List.takeWhile_append_dropWhile (p := p) (l := s))
  rw [List.length_append, hlen] at hself
  exact h (List.length_eq_zero_iff.mp (by omega))

end Routing.Pattern
