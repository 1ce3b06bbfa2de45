import Routing.Pattern.Escape

/-! Reading a class in brackets: items and ranges, nested classes, and set operations. -/
namespace Routing.Pattern

inductive SetOp
  | inter
  | diff
  | symmDiff
deriving DecidableEq, Repr

def SetOp.apply : SetOp → CharSet → CharSet → CharSet
  | inter => .inter
  | diff => .diff
  | symmDiff => .symmDiff

/-- Adds the characters that differ from a member only in case, if case does not count. -/
def Flags.fold (flags : Flags) (s : CharSet) : CharSet :=
  if !flags.ignoreCase then s else if flags.unicode then .folded s else .asciiFolded s

/-- A class whose closing bracket has not been read. -/
structure OpenClass where
  negated : Bool
  /-- The left side of a set operation whose right side is being read. -/
  pending : Option (SetOp × CharSet)
  /-- The items since the bracket or the operator. -/
  items : CharSet
deriving DecidableEq, Repr

namespace OpenClass

def add (c : OpenClass) (s : CharSet) : OpenClass :=
  { c with items := .union c.items s }

/-- The class read so far: the operators bind to the left, and weaker than items side by side. -/
def value (flags : Flags) (c : OpenClass) : CharSet :=
  match c.pending with
  | none => c.items
  | some (op, lhs) => op.apply (flags.fold lhs) (flags.fold c.items)

def operate (flags : Flags) (c : OpenClass) (op : SetOp) : OpenClass :=
  { c with pending := some (op, c.value flags), items := .empty }

/-- The set of the closed class. Without Unicode it may hold ASCII only. -/
def close? (flags : Flags) (c : OpenClass) : Option CharSet :=
  let s := flags.fold (c.value flags)
  let s := if c.negated then s.compl else s
  if !flags.unicode && !s.isAscii then none else some s

end OpenClass

namespace Class

/-- The items of a class that stand for themselves only at its beginning: dashes, or one bracket.
The fuel bounds their number. -/
def leading (flags : Flags) : Nat → OpenClass → List Char → Option (OpenClass × List Char)
  | 0, _, _ => none
  | fuel + 1, c, s =>
    match s with
    | [] => none
    | '-' :: rest => leading flags fuel (c.add (.single '-')) (flags.skip rest)
    | ']' :: rest =>
      if c.items = .empty then
        match flags.skip rest with
        | [] => none
        | s => some (c.add (.single ']'), s)
      else some (c, ']' :: rest)
    | s => some (c, s)

def opening (flags : Flags) (s : List Char) : Option (OpenClass × List Char) :=
  match flags.skip s with
  | '^' :: rest => leading flags (rest.length + 1) ⟨true, none, .empty⟩ (flags.skip rest)
  | s => leading flags (s.length + 1) ⟨false, none, .empty⟩ s

def posix? (flags : Flags) (s : List Char) : Option (CharSet × List Char) :=
  match s with
  | ':' :: rest =>
    let (negated, rest) := match rest with
      | '^' :: rest => (true, rest)
      | rest => (false, rest)
    match rest.dropWhile (· != ':') with
    | ':' :: ']' :: after => do
      let base := flags.fold (← CharSet.posix? (String.ofList (rest.takeWhile (· != ':'))))
      return (if negated then base.compl else base, after)
    | _ => none
  | _ => none

def item (flags : Flags) : List Char → Option (Escape × List Char)
  | [] => none
  | '\\' :: rest => Escape.read flags rest
  | c :: rest => some (.literal c, rest)

/-- The set of an item; without Unicode it must be ASCII. -/
def itemSet? (flags : Flags) : Escape → Option CharSet
  | .literal c => if !flags.unicode && 128 ≤ c.toNat then none else some (.single c)
  | .set s => some s
  | .look _ => none

/-- What is seen first behind the next character: in a verbose pattern blanks are not seen, and one
number sign. -/
def peek (flags : Flags) (rest : List Char) : Option Char :=
  if !flags.verbose then rest.head?
  else
    let seen := match rest.dropWhile Text.isBlank with
      | '#' :: more => more.dropWhile Text.isBlank
      | more => more
    match seen with
    | [] => rest.head?
    | c :: _ => some c

/-- Reads an item, or a range between two characters. A dash before a closing bracket or before
another dash makes no range. -/
def range (flags : Flags) (s : List Char) : Option (CharSet × List Char) := do
  let (first, rest) ← item flags s
  match flags.skip rest with
  | [] => none
  | '-' :: rest =>
    let next := peek flags rest
    if next = some ']' || next = some '-' then return (← itemSet? flags first, '-' :: rest)
    else
      match flags.skip rest with
      | [] => none
      | s =>
        match first, ← item flags s with
        | .literal lo, (.literal hi, rest) =>
          if hi < lo || (!flags.unicode && 128 ≤ hi.toNat) then none
          else return (.range lo hi, rest)
        | _, _ => none
  | rest => return (← itemSet? flags first, rest)

/-- Reads on until the outermost class is closed; `outer` are the classes around the current one.
The fuel bounds the number of steps. -/
def read (flags : Flags) : Nat → OpenClass → List OpenClass → List Char → Option (CharSet × List Char)
  | 0, _, _, _ => none
  | fuel + 1, current, outer, s =>
    match flags.skip s with
    | [] => none
    | '[' :: rest =>
      match posix? flags rest with
      | some (s, rest) =>
        if !flags.unicode && !s.isAscii then none
        else read flags fuel (current.add s) outer rest
      | none => do
        let (inner, rest) ← opening flags rest
        read flags fuel inner (current :: outer) rest
    | ']' :: rest => do
      let s ← current.close? flags
      match outer with
      | [] => return (s, rest)
      | enclosing :: outer => read flags fuel (enclosing.add s) outer rest
    | '&' :: '&' :: rest => read flags fuel (current.operate flags .inter) outer rest
    | '-' :: '-' :: rest => read flags fuel (current.operate flags .diff) outer rest
    | '~' :: '~' :: rest => read flags fuel (current.operate flags .symmDiff) outer rest
    | s => do
      let (set, rest) ← range flags s
      read flags fuel (current.add set) outer rest

end Class

def readClass (flags : Flags) (s : List Char) : Option (CharSet × List Char) := do
  let (c, rest) ← Class.opening flags s
  Class.read flags (s.length + 1) c [] rest

end Routing.Pattern
