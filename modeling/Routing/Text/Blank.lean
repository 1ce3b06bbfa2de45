/-! White space, trimming, and cutting a text at separators. -/
namespace Routing.Text

/-- The characters with the Unicode property White_Space. -/
def isBlank (c : Char) : Bool :=
  let n := c.toNat
  (9 ≤ n && n ≤ 13) || n == 0x20 || n == 0x85 || n == 0xA0 || n == 0x1680 ||
    (0x2000 ≤ n && n ≤ 0x200A) || n == 0x2028 || n == 0x2029 || n == 0x202F || n == 0x205F ||
    n == 0x3000

def trimEnd (s : List Char) : List Char :=
  (s.reverse.dropWhile isBlank).reverse

def trim (s : List Char) : List Char :=
  trimEnd (s.dropWhile isBlank)

/-- The pieces between separators: one more than there are separators. -/
def splitWhere (isSeparator : Char → Bool) : List Char → List (List Char)
  | [] => [[]]
  | c :: rest =>
    if isSeparator c then [] :: splitWhere isSeparator rest
    else
      match splitWhere isSeparator rest with
      | [] => [[c]]
      | piece :: pieces => (c :: piece) :: pieces

theorem splitWhere_ne_nil (p : Char → Bool) (s : List Char) : splitWhere p s ≠ [] := by
  induction s with
  | nil => simp [splitWhere]
  | cons c rest ih =>
    simp only [splitWhere]
    split
    · simp
    · split <;> simp

theorem splitWhere_of_forall {p : Char → Bool} {s : List Char} (h : ∀ c ∈ s, p c = false) :
    splitWhere p s = [s] := by
  induction s with
  | nil => rfl
  | cons c rest ih =>
    simp [splitWhere, h c (by simp), ih fun d hd => h d (by simp [hd])]

/-- Cutting at a separator cuts both sides on their own. -/
theorem splitWhere_append {p : Char → Bool} {c : Char} (hc : p c = true) (s t : List Char) :
    splitWhere p (s ++ c :: t) = splitWhere p s ++ splitWhere p t := by
  induction s with
  | nil => simp [splitWhere, hc]
  | cons d rest ih =>
    simp only [List.cons_append, splitWhere]
    split
    · simp [ih]
    · rw [ih]
      cases h : splitWhere p rest with
      | nil => exact absurd h (splitWhere_ne_nil p rest)
      | cons piece pieces => simp

end Routing.Text
