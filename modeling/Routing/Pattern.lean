import Routing.Pattern.Match
import Routing.Pattern.Reader

/-! Compiled patterns: whether a text matches, and what the groups of the match hold. -/
namespace Routing

/-- A regular expression together with the text it was read from. -/
structure Pattern where
  source : String
  expr : Pattern.Expr
deriving DecidableEq, Repr

namespace Pattern

def compile? (source : String) : Option Pattern :=
  (Expr.parse? source.toList).map (⟨source, ·⟩)

/-- The number of capturing groups, the whole match not counted. -/
def groupCount (p : Pattern) : Nat := p.expr.lastGroup

/-- What the group with the given number holds at the end of a match: what it matched last. -/
def Captures.group? (captures : Captures) (number : Nat) : Option String :=
  (captures.reverse.lookup number).map String.ofList

/-- The groups of the leftmost match, from the first one on; a group without a part in it is `none`. -/
def captures? (p : Pattern) (text : String) : Option (List (Option String)) :=
  (p.expr.search (Cursor.start text.toList)).map fun captures =>
    (List.range p.groupCount).map fun i => captures.group? (i + 1)

def isMatch (p : Pattern) (text : String) : Bool :=
  (p.expr.search (Cursor.start text.toList)).isSome

def quote (text : String) : String :=
  String.ofList (Escape.quote text.toList)

end Pattern
end Routing
