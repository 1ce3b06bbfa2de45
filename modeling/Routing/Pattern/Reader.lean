import Routing.Pattern.Class

/-! Reading a pattern, one token at a time, with the open groups on a stack. -/
namespace Routing.Pattern

/-- A part of a branch; `none` stands for flags that were set there, which cannot be repeated. -/
abbrev Item := Option Expr

/-- A group that is not closed yet, and what stands before it on its level. -/
structure OpenGroup where
  capturing : Bool
  /-- The flags that come back when the group closes. -/
  flags : Flags
  /-- The finished branches before the group, the newest first. -/
  branches : List Expr
  /-- The items of the branch that the group belongs to, the newest first. -/
  items : List Item
deriving DecidableEq, Repr

structure Reader where
  flags : Flags := {}
  /-- The names of groups, which are all different. -/
  names : List (List Char) := []
  /-- The finished branches of the innermost open group, the newest first. -/
  branches : List Expr := []
  /-- The items of the branch that is being read, the newest first. -/
  items : List Item := []
  /-- The open groups, the innermost first. -/
  outer : List OpenGroup := []
deriving DecidableEq, Repr

namespace Reader

/-- The expression of a branch from its items, the newest first. -/
def branch (items : List Item) : Expr :=
  Expr.seqAll (items.reverse.filterMap id)

def current (r : Reader) : Expr :=
  Expr.altAll ((branch r.items :: r.branches).reverse)

def push (r : Reader) (e : Expr) : Reader :=
  { r with items := some e :: r.items }

def bar (r : Reader) : Reader :=
  { r with branches := branch r.items :: r.branches, items := [] }

def openGroup (r : Reader) (capturing : Bool) (flags : Flags) : Reader where
  flags := flags
  names := r.names
  outer := ⟨capturing, r.flags, r.branches, r.items⟩ :: r.outer

def closeGroup? (r : Reader) : Option Reader :=
  match r.outer with
  | [] => none
  | g :: outer =>
    let e := if g.capturing then Expr.group r.current else r.current
    some { flags := g.flags, names := r.names, branches := g.branches, items := some e :: g.items, outer }

def repeat? (r : Reader) (lo : Nat) (hi : Option Nat) (lazily : Bool) : Option Reader :=
  match r.items with
  | some e :: items => some { r with items := some (.rep lo hi (lazily == r.flags.swapGreed) e) :: items }
  | _ => none

def literal (flags : Flags) (c : Char) : Expr :=
  .chars (if !flags.unicode && 128 ≤ c.toNat then .single c else flags.fold (.single c))

/-- Any character; without the flag for it none that ends a line. A dot needs Unicode. -/
def dot? (flags : Flags) : Option Expr :=
  if !flags.unicode then none
  else if flags.dotAll then some (.chars .all)
  else if flags.anyLineEnd then some (.chars (.compl (.union (.single '\n') (.single '\r'))))
  else some (.chars (.compl (.single '\n')))

def lineStart (flags : Flags) : Look :=
  if !flags.multiLine then .textStart else if flags.anyLineEnd then .anyLineStart else .lineStart

def lineEnd (flags : Flags) : Look :=
  if !flags.multiLine then .textEnd else if flags.anyLineEnd then .anyLineEnd else .lineEnd

def escapeExpr (flags : Flags) : Escape → Expr
  | .literal c => literal flags c
  | .set s => .chars s
  | .look condition => .look condition

/-- A question mark behind a repetition turns its preference around. -/
def lazyMark : List Char → Bool × List Char
  | '?' :: rest => (true, rest)
  | rest => (false, rest)

/-- The number that the digits write, after the digits of `acc`. The fuel bounds their number. -/
def digits (flags : Flags) : Nat → Option Nat → List Char → Option (Nat × List Char)
  | 0, _, _ => none
  | fuel + 1, acc, s =>
    match s with
    | [] => acc.map (·, [])
    | c :: rest =>
      if c.isDigit then
        digits flags fuel (some (acc.getD 0 * 10 + (c.toNat - '0'.toNat))) (flags.skip rest)
      else acc.map (·, s)

def countBound : Nat := 4294967296

/-- A count of a repetition, with blanks around it. -/
def count? (flags : Flags) (s : List Char) : Option (Nat × List Char) := do
  let (n, rest) ← digits flags (s.length + 1) none (s.dropWhile Text.isBlank)
  if countBound ≤ n then none else return (n, rest.dropWhile Text.isBlank)

def bounds? (flags : Flags) (s : List Char) : Option ((Nat × Option Nat) × List Char) := do
  let (lo, rest) ← count? flags (flags.skip s)
  match rest with
  | '}' :: rest => return ((lo, some lo), rest)
  | ',' :: rest =>
    match flags.skip rest with
    | '}' :: rest => return ((lo, none), rest)
    | s =>
      let (hi, rest) ← count? flags s
      match rest with
      | '}' :: rest => if hi < lo then none else return ((lo, some hi), rest)
      | _ => none
  | _ => none

/-- Flags up to the colon or the parenthesis after them. A dash switches off what follows it. -/
def readFlags (negated dash : Bool) (seen : List Char) (flags : Flags) :
    List Char → Option (Flags × Bool × Char × List Char)
  | [] => none
  | c :: rest =>
    if c = ':' || c = ')' then
      if dash then none else some (flags, seen.isEmpty, c, rest)
    else if c = '-' then
      if negated then none else readFlags true true seen flags rest
    else if seen.contains c then none
    else
      match flags.set? c (!negated) with
      | some flags => readFlags negated false (c :: seen) flags rest
      | none => none

def isNameStart (c : Char) : Bool :=
  c == '_' || Unicode.inSpans Unicode.Property.alphabetic c

def isNamePart (c : Char) : Bool :=
  c == '_' || c == '.' || c == '[' || c == ']' ||
    Unicode.inSpans Unicode.Property.alphabetic c || Unicode.inSpans Unicode.Category.number c

def groupName? (s : List Char) : Option (List Char × List Char) :=
  match s.span (· != '>') with
  | (first :: more, '>' :: rest) =>
    if isNameStart first && more.all isNamePart then some (first :: more, rest) else none
  | _ => none

def named? (r : Reader) (s : List Char) : Option (Reader × List Char) := do
  let (name, rest) ← groupName? s
  if r.names.contains name then none
  else return ({ r with names := name :: r.names }.openGroup true r.flags, rest)

/-- Reads what follows an opening parenthesis. Assertions about text around a position are refused. -/
def opening? (r : Reader) (s : List Char) : Option (Reader × List Char) :=
  match r.flags.skip s with
  | '?' :: '=' :: _ | '?' :: '!' :: _ | '?' :: '<' :: '=' :: _ | '?' :: '<' :: '!' :: _ => none
  | '?' :: 'P' :: '<' :: rest | '?' :: '<' :: rest => r.named? rest
  | '?' :: rest =>
    match readFlags false false [] r.flags rest with
    | none => none
    | some (flags, bare, c, rest) =>
      if c = ':' then some (r.openGroup false flags, rest)
      else if bare then none
      else some ({ r with flags, items := none :: r.items }, rest)
  | s => some (r.openGroup true r.flags, s)

def token? (r : Reader) (c : Char) (rest : List Char) : Option (Reader × List Char) :=
  match c with
  | '(' => r.opening? rest
  | ')' => r.closeGroup?.map (·, rest)
  | '|' => some (r.bar, rest)
  | '[' => (readClass r.flags rest).map fun (s, rest) => (r.push (.chars s), rest)
  | '?' => let (lazily, rest) := lazyMark rest; (r.repeat? 0 (some 1) lazily).map (·, rest)
  | '*' => let (lazily, rest) := lazyMark rest; (r.repeat? 0 none lazily).map (·, rest)
  | '+' => let (lazily, rest) := lazyMark rest; (r.repeat? 1 none lazily).map (·, rest)
  | '{' => do
    let ((lo, hi), rest) ← bounds? r.flags rest
    let (lazily, rest) := lazyMark (r.flags.skip rest)
    return (← r.repeat? lo hi lazily, rest)
  | '\\' => (Escape.read r.flags rest).map fun (e, rest) => (r.push (escapeExpr r.flags e), rest)
  | '.' => (dot? r.flags).map fun e => (r.push e, rest)
  | '^' => some (r.push (.look (lineStart r.flags)), rest)
  | '$' => some (r.push (.look (lineEnd r.flags)), rest)
  | c => some (r.push (literal r.flags c), rest)

/-- Reads to the end of the text. The fuel bounds the number of tokens. -/
def read : Nat → Reader → List Char → Option Reader
  | fuel, r, s =>
    match r.flags.skip s with
    | [] => some r
    | c :: rest =>
      match fuel with
      | 0 => none
      | fuel + 1 => do
        let (r, rest) ← r.token? c rest
        read fuel r rest

/-- The expression of a whole pattern, if no group is left open. -/
def finish? (r : Reader) : Option Expr :=
  if r.outer.isEmpty then some r.current else none

end Reader

def Expr.parse? (pattern : List Char) : Option Expr := do
  (← Reader.read pattern.length {} pattern).finish?

end Routing.Pattern
