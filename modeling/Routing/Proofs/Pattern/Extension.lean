import Routing.Proofs.Pattern.Ways

/-! Expressions that ask nothing about positions: what they match, they match in every text around it. -/
namespace Routing.Pattern

open Way

/-- Nowhere does the expression ask for a condition on a position. -/
def Expr.lookFree : Expr → Bool
  | empty | chars _ => true
  | look _ => false
  | seq a b | alt a b => a.lookFree && b.lookFree
  | rep _ _ _ e | group e => e.lookFree

namespace Cursor

/-- The same position in a longer text, `offset` characters further on and with `tail` behind the rest. -/
structure Within (offset : Nat) (tail : List Char) (c d : Cursor) : Prop where
  pos : d.pos = c.pos + offset
  rest : d.rest = c.rest ++ tail

/-- Every position in the rest is ahead. -/
theorem exists_ahead {c : Cursor} {text rest : List Char} (h : c.rest = text ++ rest) :
    ∃ d ∈ c.ahead, d.pos = c.pos + text.length ∧ d.rest = rest := by
  induction text generalizing c with
  | nil => exact ⟨c, c.mem_ahead_self, rfl, h⟩
  | cons x text ih =>
    obtain ⟨d, hd, hpos, hrest⟩ := ih (c := c.advance x (text ++ rest)) rfl
    refine ⟨d, mem_ahead_trans (mem_ahead_advance h) hd, ?_, hrest⟩
    rw [hpos, List.length_cons]
    change c.pos + 1 + text.length = _
    omega

theorem length_textTo {c d : Cursor} (h : d ∈ c.ahead) : (c.textTo d).length = d.pos - c.pos := by
  have hrest := congrArg List.length (rest_eq_textTo h)
  have hlength := length_rest_of_mem_ahead h
  rw [List.length_append] at hrest
  omega

/-- Positions ahead are ahead in the longer text, too, and the text to them is the same. -/
theorem Within.exists_ahead {offset : Nat} {tail : List Char} {c d e : Cursor}
    (h : c.Within offset tail d) (he : e ∈ c.ahead) :
    ∃ f ∈ d.ahead, e.Within offset tail f ∧ d.textTo f = c.textTo e := by
  have hrest : d.rest = c.textTo e ++ (e.rest ++ tail) := by
    rw [h.rest, rest_eq_textTo he, List.append_assoc]
  obtain ⟨f, hf, hpos, htail⟩ := Cursor.exists_ahead hrest
  have hlength := length_textTo he
  have hle := (getElem?_ahead he).1
  refine ⟨f, hf, ⟨?_, htail⟩, ?_⟩
  · rw [hpos, h.pos]
    omega
  · change d.rest.take (f.pos - d.pos) = _
    rw [hrest, hpos, Nat.add_sub_cancel_left, List.take_left]

end Cursor

/-- Every way of the first round leads to the same position as some way of the second one in a longer
text. -/
def Way.Carries (offset : Nat) (tail : List Char) (round round' : Cursor → List Way) : Prop :=
  ∀ c d, c.Within offset tail d → ∀ way ∈ round c, ∃ way' ∈ round' d, way.2.Within offset tail way'.2

namespace Way

variable {offset : Nat} {tail : List Char} {round round' next next' : Cursor → List Way}

theorem carries_stay : Carries offset tail (fun c => [([], c)]) (fun c => [([], c)]) := by
  intro c d h way hway
  rw [List.mem_singleton.mp hway]
  exact ⟨_, List.mem_singleton_self _, h⟩

theorem carries_andThen (hround : Carries offset tail round round')
    (hnext : Carries offset tail next next') :
    Carries offset tail (fun c => andThen (round c) next) (fun c => andThen (round' c) next') := by
  rintro c d h ⟨captures, e⟩ hway
  obtain ⟨l, m, l', hl, hl', -⟩ := mem_andThen.mp hway
  obtain ⟨⟨k, f⟩, hk, hf⟩ := hround c d h _ hl
  obtain ⟨⟨k', g⟩, hk', hg⟩ := hnext m f hf _ hl'
  exact ⟨(k ++ k', g), mem_andThen.mpr ⟨k, f, k', hk, hk', rfl⟩, hg⟩

theorem carries_prefer (first : Bool) (hround : Carries offset tail round round')
    (hnext : Carries offset tail next next') :
    Carries offset tail (fun c => prefer first (round c) (next c))
      (fun c => prefer first (round' c) (next' c)) := by
  intro c d h way hway
  rcases mem_prefer.mp hway with hway | hway
  · obtain ⟨way', hway', hend⟩ := hround c d h way hway
    exact ⟨way', mem_prefer.mpr (.inl hway'), hend⟩
  · obtain ⟨way', hway', hend⟩ := hnext c d h way hway
    exact ⟨way', mem_prefer.mpr (.inr hway'), hend⟩

theorem carries_rounds (hround : Carries offset tail round round')
    (hnext : Carries offset tail next next') (n : Nat) :
    Carries offset tail (rounds round n next) (rounds round' n next') := by
  induction n with
  | zero => exact hnext
  | succ n ih => exact carries_andThen hround ih

theorem carries_atMost (hround : Carries offset tail round round') (greedy : Bool) (n : Nat) :
    Carries offset tail (atMost round greedy n) (atMost round' greedy n) := by
  induction n with
  | zero => exact carries_stay
  | succ n ih => exact carries_prefer greedy (carries_andThen hround ih) carries_stay

/-- In a longer text there is fuel for more rounds. -/
theorem carries_many (hround : Carries offset tail round round') (greedy : Bool) {fuel fuel' : Nat}
    (hfuel : fuel ≤ fuel') :
    Carries offset tail (many round greedy fuel) (many round' greedy fuel') := by
  induction fuel generalizing fuel' with
  | zero =>
    intro c d h way hway
    rw [List.mem_singleton.mp hway]
    cases fuel' with
    | zero => exact ⟨_, List.mem_singleton_self _, h⟩
    | succ fuel' => exact ⟨([], d), mem_prefer.mpr (.inr (List.mem_singleton_self _)), h⟩
  | succ fuel ih =>
    obtain ⟨fuel', rfl⟩ := Nat.exists_eq_succ_of_ne_zero (show fuel' ≠ 0 by omega)
    intro c d h
    have hmore : Carries offset tail
        (fun e => if e.pos ≤ c.pos then [([], e)] else many round greedy fuel e)
        (fun e => if e.pos ≤ d.pos then [([], e)] else many round' greedy fuel' e) := by
      intro e f he way hway
      have hpos : f.pos ≤ d.pos ↔ e.pos ≤ c.pos := by
        rw [he.pos, h.pos]
        omega
      dsimp only at hway ⊢
      simp only [hpos]
      split_ifs at hway ⊢
      · exact carries_stay e f he way hway
      · exact ih (Nat.le_of_succ_le_succ hfuel) e f he way hway
    exact carries_prefer greedy (carries_andThen hround hmore) carries_stay c d h

end Way

namespace Expr

/-- What a look-free expression matches, it matches in every longer text. -/
theorem carries_ways {e : Expr} (h : e.lookFree = true) (first offset : Nat) (tail : List Char) :
    Carries offset tail (e.ways first) (e.ways first) := by
  induction e generalizing first with
  | empty => exact carries_stay
  | chars set =>
    intro c d hcd way hway
    simp only [ways] at hway
    split at hway
    · cases hway
    · next x rest hrest =>
      split_ifs at hway with hmem
      · rw [List.mem_singleton.mp hway]
        have hd : d.rest = x :: (rest ++ tail) := by rw [hcd.rest, hrest, List.cons_append]
        refine ⟨([], d.advance x (rest ++ tail)), ?_, ?_, rfl⟩
        · simp [ways, hd, hmem]
        · change d.pos + 1 = c.pos + 1 + offset
          rw [hcd.pos]
          omega
      · cases hway
  | look condition => cases h
  | seq a b iha ihb =>
    rw [lookFree, Bool.and_eq_true] at h
    exact carries_andThen (iha h.1 first) (ihb h.2 _)
  | alt a b iha ihb =>
    rw [lookFree, Bool.and_eq_true] at h
    exact carries_prefer true (iha h.1 first) (ihb h.2 _)
  | rep lo hi greedy e ih =>
    have hround := ih h first
    intro c d hcd way hway
    simp only [ways] at hway ⊢
    split at hway
    · next set _ =>
      obtain ⟨m, hm, rfl⟩ := List.mem_map.mp hway
      have hends : m ∈ (Matcher.reach set hi c []).filter (c.pos + lo ≤ ·.pos) := by
        split_ifs at hm
        · exact hm
        · exact List.mem_reverse.mp hm
      obtain ⟨hreach, hlo⟩ := List.mem_filter.mp hends
      obtain ⟨hahead, hall, hbound⟩ := Matcher.mem_reach_iff.mp hreach
      obtain ⟨m', hahead', hm', htext⟩ := hcd.exists_ahead hahead
      have hends' : m' ∈ (Matcher.reach set hi d []).filter (d.pos + lo ≤ ·.pos) := by
        rw [List.mem_filter, Matcher.mem_reach_iff, htext, hm'.pos, hcd.pos]
        simp only [decide_eq_true_eq] at hlo ⊢
        exact ⟨⟨hahead', hall, fun n hn => by have := hbound n hn; omega⟩, by omega⟩
      refine ⟨([], m'), List.mem_map.mpr ⟨m', ?_, rfl⟩, hm'⟩
      split_ifs
      · exact hends'
      · exact List.mem_reverse.mpr hends'
    · refine carries_rounds hround (fun m m' hm => ?_) lo c d hcd way hway
      cases hi with
      | none =>
        have hlength : m.rest.length + 1 ≤ m'.rest.length + 1 := by
          rw [hm.rest, List.length_append]
          omega
        exact carries_many hround greedy hlength m m' hm
      | some hi => exact carries_atMost hround greedy _ m m' hm
  | group e ih =>
    intro c d hcd way hway
    obtain ⟨⟨l, m⟩, hl, rfl⟩ := List.mem_map.mp hway
    obtain ⟨way', hway', hend⟩ := ih h (first + 1) c d hcd _ hl
    exact ⟨_, List.mem_map.mpr ⟨way', hway', rfl⟩, hend⟩

end Expr
end Routing.Pattern
