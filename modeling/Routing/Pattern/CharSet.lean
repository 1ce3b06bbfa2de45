import Routing.Text.Blank
import Routing.Unicode.Case
import Routing.Unicode.Category
import Routing.Unicode.Property

/-! Sets of characters as classes of a pattern write them, and membership in them. -/
namespace Routing.Pattern

inductive CharSet
  | empty
  /-- The characters from `lo` to `hi`, both included. -/
  | range (lo hi : Char)
  /-- The characters of a Unicode property. -/
  | spans (spans : List Unicode.Span)
  | union (a b : CharSet)
  | inter (a b : CharSet)
  | diff (a b : CharSet)
  | symmDiff (a b : CharSet)
  | compl (a : CharSet)
  /-- Every character that agrees with a member under simple case folding. -/
  | folded (a : CharSet)
  /-- Every character that agrees with a member up to the case of ASCII letters. -/
  | asciiFolded (a : CharSet)
deriving DecidableEq, Repr

namespace CharSet

def mem : CharSet → Char → Bool
  | empty, _ => false
  | range lo hi, c => decide (lo ≤ c) && decide (c ≤ hi)
  | spans s, c => Unicode.inSpans s c
  | union a b, c => a.mem c || b.mem c
  | inter a b, c => a.mem c && b.mem c
  | diff a b, c => a.mem c && !b.mem c
  | symmDiff a b, c => a.mem c != b.mem c
  | compl a, c => !a.mem c
  | folded a, c => (Unicode.caseVariants c).any a.mem
  | asciiFolded a, c => a.mem c || a.mem c.toLower || a.mem c.toUpper

def single (c : Char) : CharSet := range c c

def all : CharSet := compl empty

def unionAll (sets : List CharSet) : CharSet :=
  sets.foldr union empty

/-- Whether no character from 0x80 to 0xFF belongs to the set. -/
def isAscii (s : CharSet) : Bool :=
  (List.range 128).all fun n => !s.mem (Char.ofNat (128 + n))

def digit (ascii : Bool) : CharSet :=
  if ascii then range '0' '9' else spans Unicode.Category.decimalNumber

def space (ascii : Bool) : CharSet :=
  if ascii then union (range '\t' '\r') (single ' ') else spans Unicode.Property.whiteSpace

def word (ascii : Bool) : CharSet :=
  if ascii then
    unionAll [range 'a' 'z', range 'A' 'Z', range '0' '9', single '_']
  else
    unionAll [spans Unicode.Property.alphabetic, spans Unicode.Category.decimalNumber,
      spans Unicode.Category.connectorPunctuation, spans Unicode.Category.mark,
      spans Unicode.Property.joinControl]

/-- The classes that brackets with colons name. -/
def posix? : String → Option CharSet
  | "alnum" => some (unionAll [range '0' '9', range 'A' 'Z', range 'a' 'z'])
  | "alpha" => some (union (range 'A' 'Z') (range 'a' 'z'))
  | "ascii" => some (range '\x00' '\x7f')
  | "blank" => some (union (single '\t') (single ' '))
  | "cntrl" => some (union (range '\x00' '\x1f') (single '\x7f'))
  | "digit" => some (range '0' '9')
  | "graph" => some (range '!' '~')
  | "lower" => some (range 'a' 'z')
  | "print" => some (range ' ' '~')
  | "punct" => some (unionAll [range '!' '/', range ':' '@', range '[' '\x60', range '\x7b' '~'])
  | "space" => some (space true)
  | "upper" => some (range 'A' 'Z')
  | "word" => some (word true)
  | "xdigit" => some (unionAll [range '0' '9', range 'A' 'F', range 'a' 'f'])
  | _ => none

@[simp] theorem mem_single (c d : Char) : (single c).mem d = decide (c = d) := by
  simp only [single, mem]
  by_cases h : c = d
  · simp [h]
  · have : ¬(c ≤ d ∧ d ≤ c) := fun ⟨h₁, h₂⟩ => h (Char.le_antisymm h₁ h₂)
    simp only [h, decide_false, Bool.and_eq_false_iff, decide_eq_false_iff_not]
    exact Decidable.not_and_iff_or_not.1 this

@[simp] theorem mem_all (c : Char) : all.mem c = true := rfl

end CharSet
end Routing.Pattern
