/-! Sets of characters written as spans of code points, and the compact text in which tables hold them. -/
namespace Routing.Unicode

/-- The code points from `lo` to `hi`, both included. -/
structure Span where
  lo : Nat
  hi : Nat
deriving DecidableEq, Repr

def Span.contains (s : Span) (n : Nat) : Bool :=
  decide (s.lo ≤ n) && decide (n ≤ s.hi)

def inSpans (spans : List Span) (c : Char) : Bool :=
  spans.any (·.contains c.toNat)

/-- One digit of a number in base 32, and whether it is the last one: last digits are `0` to `9`
and `a` to `v`, digits with others after them are `A` to `Z`, `w` to `z`, `+` and `-`. -/
def tableDigit (c : Char) : Nat × Bool :=
  if '0' ≤ c ∧ c ≤ '9' then (c.toNat - '0'.toNat, true)
  else if 'a' ≤ c ∧ c ≤ 'v' then (c.toNat - 'a'.toNat + 10, true)
  else if 'A' ≤ c ∧ c ≤ 'Z' then (c.toNat - 'A'.toNat, false)
  else if 'w' ≤ c ∧ c ≤ 'z' then (c.toNat - 'w'.toNat + 26, false)
  else if c = '+' then (30, false)
  else (31, false)

/-- Reads numbers, the digits of the first one so far being worth `acc`. -/
def readNumbers (acc : Nat) : List Char → List Nat
  | [] => []
  | c :: rest =>
    let value := acc * 32 + (tableDigit c).1
    if (tableDigit c).2 then value :: readNumbers 0 rest else readNumbers value rest

def decodeNumbers (lines : List String) : List Nat :=
  readNumbers 0 (lines.flatMap String.toList)

/-- Spans from pairs of numbers: how far past `next` the span begins, and how far it reaches on. -/
def spansFrom (next : Nat) : List Nat → List Span
  | gap :: extent :: rest => ⟨next + gap, next + gap + extent⟩ :: spansFrom (next + gap + extent + 1) rest
  | _ => []

def decodeSpans (lines : List String) : List Span :=
  spansFrom 0 (decodeNumbers lines)

/-- The spans of the first entry of a table that has the folded name. -/
def findSpans? (table : List (List String × List String)) (name : String) : Option (List Span) :=
  (table.find? fun entry => entry.1.contains name).map fun entry => decodeSpans entry.2

end Routing.Unicode
