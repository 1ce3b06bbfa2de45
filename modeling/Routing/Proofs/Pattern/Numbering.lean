import Mathlib.Algebra.BigOperators.Group.List.Basic
import Mathlib.Algebra.GroupWithZero.Nat
import Routing.Proofs.Pattern.Ways

/-! Group numbers: expressions in a row and side by side take them one after the other, and a later
first number shifts all others. -/
namespace Routing.Pattern

namespace Way

/-- The way with every group number greater by `n`. -/
def shift (n : Nat) (way : Way) : Way :=
  (way.1.map fun (k, text) => (k + n, text), way.2)

variable {n : Nat} {round next : Cursor → List Way}

theorem map_shift_stay (n : Nat) (c : Cursor) : [([], c)].map (shift n) = [([], c)] := rfl

theorem andThen_stay (ways : List Way) : (andThen ways fun d => [([], d)]) = ways := by
  induction ways with
  | nil => rfl
  | cons way ways ih =>
    obtain ⟨captures, d⟩ := way
    have hone : (andThen ((captures, d) :: ways) fun d => [([], d)]) =
        [(captures ++ [], d)] ++ andThen ways fun d => [([], d)] := rfl
    rw [hone, ih, List.append_nil]
    rfl

theorem andThen_shift (ways : List Way) (next : Cursor → List Way) :
    (andThen (ways.map (shift n)) fun d => (next d).map (shift n)) =
      (andThen ways next).map (shift n) := by
  unfold andThen
  rw [List.flatMap_map, List.map_flatMap]
  refine List.flatMap_congr fun way _ => ?_
  obtain ⟨captures, d⟩ := way
  simp only [shift, List.map_map]
  refine List.map_congr_left fun (more, e) _ => ?_
  simp [shift]

theorem prefer_shift (first : Bool) (a b : List Way) :
    prefer first (a.map (shift n)) (b.map (shift n)) = (prefer first a b).map (shift n) := by
  unfold prefer
  split_ifs <;> rw [List.map_append]

theorem rounds_shift (m : Nat) (c : Cursor) :
    rounds (fun c => (round c).map (shift n)) m (fun c => (next c).map (shift n)) c =
      (rounds round m next c).map (shift n) := by
  induction m generalizing c with
  | zero => rfl
  | succ m ih => rw [rounds, rounds, funext ih, andThen_shift]

theorem atMost_shift (greedy : Bool) (m : Nat) (c : Cursor) :
    atMost (fun c => (round c).map (shift n)) greedy m c =
      (atMost round greedy m c).map (shift n) := by
  induction m generalizing c with
  | zero => rfl
  | succ m ih => rw [atMost, atMost, funext ih, andThen_shift, ← map_shift_stay n, prefer_shift]; rfl

theorem many_shift (greedy : Bool) (fuel : Nat) (c : Cursor) :
    many (fun c => (round c).map (shift n)) greedy fuel c =
      (many round greedy fuel c).map (shift n) := by
  induction fuel generalizing c with
  | zero => rfl
  | succ fuel ih =>
    have hmore : (fun d => if d.pos ≤ c.pos then [([], d)]
        else many (fun c => (round c).map (shift n)) greedy fuel d) =
        fun d => (if d.pos ≤ c.pos then [([], d)] else many round greedy fuel d).map (shift n) := by
      funext d
      split_ifs
      · rfl
      · exact ih d
    simp only [many]
    rw [hmore, andThen_shift, ← map_shift_stay n, prefer_shift]
    rfl

end Way

open Way

namespace Expr

theorem slots_seqAll (es : List Expr) : (seqAll es).slots = (es.map slots).sum := by
  fun_induction seqAll es with
  | case1 => rfl
  | case2 e => simp
  | case3 e rest _ ih => rw [slots, ih, List.map_cons, List.sum_cons]

theorem slots_altAll (es : List Expr) : (altAll es).slots = (es.map slots).sum := by
  fun_induction altAll es with
  | case1 => rfl
  | case2 e => simp
  | case3 e rest _ ih => rw [slots, ih, List.map_cons, List.sum_cons]

/-- A later first number makes every number greater. -/
theorem ways_shift (e : Expr) (first n : Nat) (c : Cursor) :
    e.ways (first + n) c = (e.ways first c).map (shift n) := by
  induction e generalizing first c with
  | empty => rfl
  | chars set =>
    simp only [ways]
    split
    · rfl
    · split_ifs <;> rfl
  | look condition =>
    simp only [ways]
    split_ifs <;> rfl
  | seq a b iha ihb =>
    have hb : b.ways (first + n + a.slots) = fun d => (b.ways (first + a.slots) d).map (shift n) := by
      funext d
      rw [Nat.add_right_comm, ihb]
    rw [ways, ways, iha, hb, andThen_shift]
  | alt a b iha ihb => rw [ways, ways, List.map_append, iha, Nat.add_right_comm, ihb]
  | rep lo hi greedy e ih =>
    simp only [ways]
    split
    · rw [List.map_map]
      rfl
    · rw [funext (ih first), ← rounds_shift]
      congr 1
      funext d
      split
      · exact many_shift greedy _ d
      · exact atMost_shift greedy _ d
  | group e ih =>
    rw [ways, ways, Nat.add_right_comm, ih, List.map_map, List.map_map]
    refine List.map_congr_left fun way _ => ?_
    obtain ⟨captures, d⟩ := way
    simp [shift]

theorem ways_seqAll_cons (e : Expr) (es : List Expr) (first : Nat) (c : Cursor) :
    (seqAll (e :: es)).ways first c = andThen (e.ways first c) ((seqAll es).ways (first + e.slots)) := by
  cases es with
  | nil => exact (andThen_stay _).symm
  | cons e' es => rfl

theorem ways_altAll_cons (e e' : Expr) (es : List Expr) (first : Nat) (c : Cursor) :
    (altAll (e :: e' :: es)).ways first c =
      e.ways first c ++ (altAll (e' :: es)).ways (first + e.slots) c := rfl

end Expr
end Routing.Pattern
