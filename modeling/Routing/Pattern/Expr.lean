import Routing.Pattern.CharSet

/-! Regular expressions with capturing groups and priorities among alternatives. -/
namespace Routing.Pattern

/-- Where a position stands between a character of a word and one of none. -/
inductive WordEdge
  /-- Exactly one side is in a word. -/
  | boundary
  /-- Both sides are in a word, or neither is. -/
  | interior
  | start
  | finish
  /-- The left side is in no word. -/
  | startHalf
  /-- The right side is in no word. -/
  | finishHalf
deriving DecidableEq, Repr

/-- A condition on a position that consumes nothing. -/
inductive Look
  | textStart
  | textEnd
  /-- At the start of the text or after a line feed. -/
  | lineStart
  /-- At the end of the text or before a line feed. -/
  | lineEnd
  /-- As `lineStart`, where a line may also end with a carriage return, alone or with a line feed. -/
  | anyLineStart
  /-- As `lineEnd`, where a line may also end with a carriage return, alone or with a line feed. -/
  | anyLineEnd
  | word (edge : WordEdge) (ascii : Bool)
deriving DecidableEq, Repr

inductive Expr
  | empty
  /-- One character of the set. -/
  | chars (set : CharSet)
  | look (condition : Look)
  | seq (a b : Expr)
  /-- Either expression; `a` is preferred. -/
  | alt (a b : Expr)
  /-- From `lo` to `hi` rounds of `e`; more rounds are preferred if it is greedy. -/
  | rep (lo : Nat) (hi : Option Nat) (greedy : Bool) (e : Expr)
  /-- A capturing group. Groups are numbered by where they open. -/
  | group (e : Expr)
deriving DecidableEq, Repr

namespace Expr

/-- How many group numbers the expression takes. -/
def slots : Expr → Nat
  | empty | chars _ | look _ => 0
  | seq a b | alt a b => a.slots + b.slots
  | rep _ _ _ e => e.slots
  | group e => e.slots + 1

/-- The highest number, counted from the first group of the expression as one, of a group that a
match can reach. Groups repeated at most zero times take numbers, but no match reaches them. -/
def lastGroup : Expr → Nat
  | empty | chars _ | look _ => 0
  | seq a b | alt a b => if b.lastGroup = 0 then a.lastGroup else a.slots + b.lastGroup
  | rep _ hi _ e => if hi = some 0 then 0 else e.lastGroup
  | group e => e.lastGroup + 1

theorem lastGroup_le_slots (e : Expr) : e.lastGroup ≤ e.slots := by
  induction e with
  | empty | chars | look => exact Nat.le_refl 0
  | seq a b iha ihb | alt a b iha ihb =>
    simp only [lastGroup, slots]
    split <;> omega
  | rep lo hi greedy e ih =>
    simp only [lastGroup, slots]
    split <;> omega
  | group e ih => simp only [lastGroup, slots]; omega

def seqAll : List Expr → Expr
  | [] => empty
  | [e] => e
  | e :: rest => seq e (seqAll rest)

/-- The expressions as alternatives, each preferred to those after it. -/
def altAll : List Expr → Expr
  | [] => empty
  | [e] => e
  | e :: rest => alt e (altAll rest)

def set? : Expr → Option CharSet
  | chars set => some set
  | _ => none

end Expr
end Routing.Pattern
