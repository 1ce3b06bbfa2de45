import Mathlib.Tactic.SplitIfs
import Routing.Method
import Routing.Proofs.Outcomes

/-! Method lists: which verbs a list names, word by word, and that its mask holds these and no others. -/
namespace Routing

/-- A word names a verb in any case: by the name of the verb, by HEAD for GET, or by a word for all. -/
def Verb.IsNamedBy (v : Verb) (word : List Char) : Prop :=
  let upper := String.ofList (word.map Char.toUpper)
  upper = v.name ∨ upper = "HEAD" ∧ v = get ∨ upper = "ANY" ∨ upper = "ALL" ∨ upper = "*"

namespace MethodMask

theorem wordBits?_holds {word : List Char} {bits : BitVec 4} (h : wordBits? word = some bits)
    (v : Verb) : bits &&& v.bit ≠ 0 ↔ v.IsNamedBy word := by
  unfold wordBits? at h
  unfold Verb.IsNamedBy
  generalize String.ofList (word.map Char.toUpper) = upper at h ⊢
  split at h <;> cases h <;> cases v <;> decide

theorem or_holds (a b : BitVec 4) (v : Verb) :
    (a ||| b) &&& v.bit ≠ 0 ↔ a &&& v.bit ≠ 0 ∨ b &&& v.bit ≠ 0 := by
  revert a b
  cases v <;> decide

theorem foldl_or_holds (sets : List (BitVec 4)) (bits : BitVec 4) (v : Verb) :
    sets.foldl (· ||| ·) bits &&& v.bit ≠ 0 ↔ bits &&& v.bit ≠ 0 ∨ ∃ set ∈ sets, set &&& v.bit ≠ 0 := by
  induction sets generalizing bits with
  | nil => simp
  | cons set sets ih =>
    rw [List.foldl_cons, ih, or_holds, or_assoc]
    simp only [List.mem_cons, exists_eq_or_imp]

theorem ofBits_ok {bits : BitVec 4} {mask : MethodMask} (h : ofBits bits.toNat = .ok mask) :
    mask.bits = bits := by
  unfold ofBits at h
  split_ifs at h
  cases h
  exact BitVec.ofNat_toNat 4 bits

/-- The mask of a list holds the verbs that its words name. -/
theorem contains_parse {text : String} {mask : MethodMask} (h : parse text = .ok mask) (v : Verb) :
    mask.contains v = true ↔ ∃ word ∈ words text.toList, v.IsNamedBy word := by
  unfold parse at h
  simp only [bind, Except.bind] at h
  split at h
  · cases h
  · next sets hsets =>
    have hread : List.Forall₂ (fun word bits => wordBits? word = some bits) (words text.toList) sets := by
      refine (mapM_eq_ok.mp hsets).imp fun word bits hword => ?_
      split at hword
      · next hbits =>
        cases hword
        exact hbits
      · cases hword
    have hzero : ¬(0 : BitVec 4) &&& v.bit ≠ 0 := by simp
    unfold contains
    rw [ofBits_ok h, bne_iff_ne, foldl_or_holds, or_iff_right hzero]
    clear hsets h
    generalize words text.toList = list at hread
    induction hread with
    | nil => simp
    | cons hhere _ ih => simp only [List.mem_cons, exists_eq_or_imp, wordBits?_holds hhere, ih]

/-- A bar or a comma ends a word. -/
theorem words_append {c : Char} (hc : (c == '|' || c == ',') = true) (s t : List Char) :
    words (s ++ c :: t) = words s ++ words t := by
  unfold words
  rw [Text.splitWhere_append hc, List.map_append, List.filter_append]

theorem words_intercalate (texts : List String) :
    words ("|".intercalate texts).toList = texts.flatMap fun text => words text.toList := by
  induction texts with
  | nil => rfl
  | cons text texts ih =>
    cases texts with
    | nil => simp
    | cons next texts =>
      have hbar : ("|".intercalate (text :: next :: texts)).toList =
          text.toList ++ '|' :: ("|".intercalate (next :: texts)).toList := by
        rw [String.intercalate_cons_cons]
        simp
      rw [List.flatMap_cons, ← ih, hbar, words_append rfl]

end MethodMask
end Routing
