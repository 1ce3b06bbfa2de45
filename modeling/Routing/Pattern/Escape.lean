import Routing.Pattern.Expr
import Routing.Pattern.Flags
import Routing.Unicode.PropertyName

/-! What a backslash begins in a pattern, and the blanks that verbose patterns skip. -/
namespace Routing.Pattern

/-- Skips blanks and comments; a comment ends with its line. -/
def skipVerbose : Bool → List Char → List Char
  | _, [] => []
  | true, c :: rest => skipVerbose (c != '\n') rest
  | false, c :: rest =>
    if Text.isBlank c then skipVerbose false rest
    else if c = '#' then skipVerbose true rest
    else c :: rest

def Flags.skip (flags : Flags) (s : List Char) : List Char :=
  if flags.verbose then skipVerbose false s else s

@[simp] theorem Flags.skip_of_not_verbose {flags : Flags} (h : flags.verbose = false) (s : List Char) :
    flags.skip s = s := by
  simp [Flags.skip, h]

inductive Escape
  | literal (c : Char)
  | set (s : CharSet)
  | look (condition : Look)
deriving DecidableEq, Repr

namespace Escape

/-- The characters with a meaning of their own somewhere in a pattern. -/
def isMeta (c : Char) : Bool :=
  "\\.+*?()|[]\x7b\x7d^$#&-~".toList.contains c

/-- Escaped, these stand for themselves. -/
def isQuotable (c : Char) : Bool :=
  isMeta c || (c.toNat < 128 && !c.isAlphanum && c != '<' && c != '>')

def quote (text : List Char) : List Char :=
  text.flatMap fun c => if isMeta c then ['\\', c] else [c]

def hexDigit? (c : Char) : Option Nat :=
  if '0' ≤ c ∧ c ≤ '9' then some (c.toNat - '0'.toNat)
  else if 'a' ≤ c ∧ c ≤ 'f' then some (c.toNat - 'a'.toNat + 10)
  else if 'A' ≤ c ∧ c ≤ 'F' then some (c.toNat - 'A'.toNat + 10)
  else none

/-- The character with the given code point; surrogates and numbers past the last one have none. -/
def charOf? (n : Nat) : Option Char :=
  if h : n.isValidChar then some (Char.ofNatAux n h) else none

def hexFixed (flags : Flags) : Nat → Nat → List Char → Option (Nat × List Char)
  | 0, acc, s => some (acc, s)
  | n + 1, acc, s =>
    match s with
    | [] => none
    | c :: rest => do hexFixed flags n (acc * 16 + (← hexDigit? c)) (flags.skip rest)

/-- Hexadecimal digits up to the closing brace, with the count `n` of those before. The fuel bounds
the number of digits. -/
def hexBraced (flags : Flags) : Nat → Nat → Nat → List Char → Option (Nat × List Char)
  | 0, _, _, _ => none
  | fuel + 1, n, acc, s =>
    match s with
    | [] => none
    | '}' :: rest => if n = 0 then none else some (acc, flags.skip rest)
    | c :: rest => do hexBraced flags fuel (n + 1) (acc * 16 + (← hexDigit? c)) (flags.skip rest)

/-- The character of a code point in hexadecimal: `digits` digits, or any number of them in braces.
Without Unicode, two digits write a byte, which must be ASCII. -/
def hex (flags : Flags) (digits : Nat) (s : List Char) : Option (Escape × List Char) :=
  match flags.skip s with
  | [] => none
  | '{' :: rest => do
    let (n, rest) ← hexBraced flags (rest.length + 1) 0 0 (flags.skip rest)
    return (literal (← charOf? n), rest)
  | s => do
    let (n, rest) ← hexFixed flags digits 0 s
    if !flags.unicode && digits == 2 && 128 ≤ n then none
    else return (literal (← charOf? n), rest)

def upToBrace (flags : Flags) : Nat → List Char → Option (List Char × List Char)
  | 0, _ => none
  | fuel + 1, s =>
    match s with
    | [] => none
    | '}' :: rest => some ([], rest)
    | c :: rest => do
      let (name, rest) ← upToBrace flags fuel (flags.skip rest)
      return (c :: name, rest)

/-- The name of a property: one letter, or a name in braces. -/
def propertyName (flags : Flags) (s : List Char) : Option (List Char × List Char) :=
  match flags.skip s with
  | [] => none
  | '{' :: rest => upToBrace flags (rest.length + 1) (flags.skip rest)
  | '\\' :: _ => none
  | c :: rest => some ([c], flags.skip rest)

def property (flags : Flags) (negated : Bool) (s : List Char) : Option (Escape × List Char) := do
  let (name, rest) ← propertyName flags s
  if !flags.unicode then none
  let spans ← Unicode.propertySpans? name
  let base := if flags.ignoreCase then CharSet.folded (.spans spans) else .spans spans
  return (set (if negated then base.compl else base), rest)

/-- A class of one letter; without Unicode its complement would hold parts of characters. -/
def letterClass (flags : Flags) (negated : Bool) (base : Bool → CharSet) (rest : List Char) :
    Option (Escape × List Char) :=
  if negated && !flags.unicode then none
  else
    let s := base !flags.unicode
    some (set (if negated then s.compl else s), rest)

def edgeName (flags : Flags) : Nat → List Char → List Char × List Char
  | 0, s => ([], s)
  | fuel + 1, s =>
    match s with
    | [] => ([], [])
    | c :: rest =>
      if c.isAlpha || c = '-' then
        let (name, rest) := edgeName flags fuel (flags.skip rest)
        (c :: name, rest)
      else ([], c :: rest)

/-- A word boundary, or an edge of words named in braces. Braces that begin otherwise belong to a
repetition. -/
def wordEdge (flags : Flags) (s : List Char) : Option (Escape × List Char) :=
  let plain := some (look (.word .boundary !flags.unicode), s)
  match s with
  | '{' :: rest =>
    match flags.skip rest with
    | [] => none
    | c :: inner =>
      if c.isAlpha || c = '-' then
        match edgeName flags (inner.length + 1) (c :: inner) with
        | (name, '}' :: rest) =>
          (match String.ofList name with
            | "start" => some WordEdge.start
            | "end" => some WordEdge.finish
            | "start-half" => some WordEdge.startHalf
            | "end-half" => some WordEdge.finishHalf
            | _ => none).map fun edge => (look (.word edge !flags.unicode), rest)
        | _ => none
      else plain
  | _ => plain

def read (flags : Flags) : List Char → Option (Escape × List Char)
  | [] => none
  | c :: rest =>
    if isQuotable c then some (literal c, rest)
    else
      match c with
      | 'x' => hex flags 2 rest
      | 'u' => hex flags 4 rest
      | 'U' => hex flags 8 rest
      | 'p' => property flags false rest
      | 'P' => property flags true rest
      | 'd' => letterClass flags false CharSet.digit rest
      | 'D' => letterClass flags true CharSet.digit rest
      | 's' => letterClass flags false CharSet.space rest
      | 'S' => letterClass flags true CharSet.space rest
      | 'w' => letterClass flags false CharSet.word rest
      | 'W' => letterClass flags true CharSet.word rest
      | 'a' => some (literal '\x07', rest)
      | 'f' => some (literal '\x0c', rest)
      | 't' => some (literal '\t', rest)
      | 'n' => some (literal '\n', rest)
      | 'r' => some (literal '\r', rest)
      | 'v' => some (literal '\x0b', rest)
      | 'A' => some (look .textStart, rest)
      | 'z' => some (look .textEnd, rest)
      | 'b' => wordEdge flags rest
      | 'B' => some (look (.word .interior !flags.unicode), rest)
      | '<' => some (look (.word .start !flags.unicode), rest)
      | '>' => some (look (.word .finish !flags.unicode), rest)
      | _ => none

end Escape
end Routing.Pattern
