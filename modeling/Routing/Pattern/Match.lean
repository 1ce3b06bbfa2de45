import Routing.Pattern.Expr

/-! Matching an expression against a text: of all ways to match, the first in the order of
preference counts, and a group holds what it matched last. -/
namespace Routing.Pattern

/-- A position in a text: how many characters stand before it, the last of them, and the rest. -/
structure Cursor where
  pos : Nat
  before : Option Char
  rest : List Char
deriving DecidableEq, Repr

namespace Cursor

def start (text : List Char) : Cursor := ⟨0, none, text⟩

def advance (cursor : Cursor) (c : Char) (rest : List Char) : Cursor :=
  ⟨cursor.pos + 1, some c, rest⟩

def textTo (a b : Cursor) : List Char :=
  a.rest.take (b.pos - a.pos)

def ahead (cursor : Cursor) : List Cursor :=
  go cursor.pos cursor.before cursor.rest
where
  go (pos : Nat) (before : Option Char) : List Char → List Cursor
    | [] => [⟨pos, before, []⟩]
    | c :: rest => ⟨pos, before, c :: rest⟩ :: go (pos + 1) (some c) rest

theorem getElem?_go {pos : Nat} {before : Option Char} {rest : List Char} {d : Cursor}
    (h : d ∈ ahead.go pos before rest) :
    pos ≤ d.pos ∧ (ahead.go pos before rest)[d.pos - pos]? = some d := by
  induction rest generalizing pos before with
  | nil =>
    rw [ahead.go, List.mem_singleton] at h
    simp [ahead.go, h]
  | cons c rest ih =>
    rw [ahead.go, List.mem_cons] at h
    rcases h with rfl | h
    · simp [ahead.go]
    · obtain ⟨hle, hget⟩ := ih h
      refine ⟨by omega, ?_⟩
      rw [ahead.go, show d.pos - pos = d.pos - (pos + 1) + 1 by omega, List.getElem?_cons_succ]
      exact hget

theorem getElem?_ahead {c d : Cursor} (h : d ∈ c.ahead) :
    c.pos ≤ d.pos ∧ c.ahead[d.pos - c.pos]? = some d :=
  getElem?_go h

end Cursor

/-- Whether the position stands at such an edge, `left` and `right` telling which sides are in a word. -/
def WordEdge.holds (edge : WordEdge) (left right : Bool) : Bool :=
  match edge with
  | boundary => left != right
  | interior => left == right
  | start => !left && right
  | finish => left && !right
  | startHalf => !left
  | finishHalf => !right

def Look.holds (condition : Look) (cursor : Cursor) : Bool :=
  let after := cursor.rest.head?
  match condition with
  | textStart => cursor.before.isNone
  | textEnd => cursor.rest.isEmpty
  | lineStart => cursor.before.isNone || cursor.before == some '\n'
  | lineEnd => cursor.rest.isEmpty || after == some '\n'
  | anyLineStart =>
    cursor.before.isNone || cursor.before == some '\n' ||
      (cursor.before == some '\r' && after != some '\n')
  | anyLineEnd =>
    cursor.rest.isEmpty || after == some '\r' ||
      (after == some '\n' && cursor.before != some '\r')
  | word edge ascii =>
    edge.holds (cursor.before.any (CharSet.word ascii).mem) (after.any (CharSet.word ascii).mem)

/-- What follows a match of a part: the answer for the rest, if there is one. -/
abbrev Continuation (α : Type) := Cursor → Option α

/-- A way to match a part and go on. -/
abbrev Matcher (α : Type) := Cursor → Continuation α → Option α

namespace Matcher

variable {α : Type}

def choose (preferFirst : Bool) (a b : Unit → Option α) : Option α :=
  let first := if preferFirst then a else b
  let second := if preferFirst then b else a
  match first () with
  | some answer => some answer
  | none => second ()

end Matcher

/-- The answers for the position with the number `start` and for those after it, each computed at
most once. -/
structure Answers (α : Type) where
  start : Nat
  answers : Array (Thunk (Option α))

namespace Answers

variable {α : Type}

def get (a : Answers α) : Continuation α := fun c =>
  if c.pos < a.start then none
  else match a.answers[c.pos - a.start]? with
    | some answer => answer.get
    | none => none

def ofContinuation (cursor : Cursor) (k : Continuation α) : Answers α :=
  ⟨cursor.pos, (cursor.ahead.map fun c => Thunk.mk fun _ => k c).toArray⟩

/-- To remember answers does not change them. -/
theorem get_ofContinuation {c d : Cursor} (k : Continuation α) (h : d ∈ c.ahead) :
    (ofContinuation c k).get d = k d := by
  obtain ⟨hle, hget⟩ := Cursor.getElem?_ahead h
  simp [get, ofContinuation, Nat.not_lt.2 hle, hget, Thunk.get]

end Answers

namespace Matcher

variable {α : Type}

def rounds (m : Matcher α) (cursor : Cursor) : Nat → Answers α → Answers α
  | 0, k => k
  | n + 1, k =>
    let next := rounds m cursor n k
    .ofContinuation cursor fun c => m c next.get

def atMost (m : Matcher α) (greedy : Bool) (cursor : Cursor) : Nat → Answers α → Answers α
  | 0, k => k
  | n + 1, k =>
    let next := atMost m greedy cursor n k
    .ofContinuation cursor fun c => choose greedy (fun _ => m c next.get) (fun _ => k.get c)

/-- The answers for any number of rounds, at this position and at each one after it. A round that
consumes nothing is the last one, in the place that it has in the order of preference. Automata that
enter no state twice at one position drop such a round after one that consumes, which changes the
groups where it is preferred to a longer one: on `aa`, `^((?:|a)*)(a?)$` gives `a` and `a` here, `aa`
and nothing there. Whether there is a match does not depend on it. -/
def manyFrom (m : Matcher α) (greedy : Bool) (k : Continuation α) (pos : Nat) (before : Option Char) :
    List Char → List (Thunk (Option α))
  | [] => [answerAt pos before [] []]
  | c :: rest =>
    let later := manyFrom m greedy k (pos + 1) (some c) rest
    answerAt pos before (c :: rest) later :: later
where
  answerAt (pos : Nat) (before : Option Char) (rest : List Char) (later : List (Thunk (Option α))) :
      Thunk (Option α) :=
    Thunk.mk fun _ =>
      let cursor : Cursor := ⟨pos, before, rest⟩
      let next : Continuation α := fun c =>
        if c.pos ≤ pos then k c
        else match later[c.pos - pos - 1]? with
          | some answer => answer.get
          | none => none
      choose greedy (fun _ => m cursor next) (fun _ => k cursor)

def many (m : Matcher α) (greedy : Bool) (cursor : Cursor) (k : Continuation α) : Answers α :=
  ⟨cursor.pos, (manyFrom m greedy k cursor.pos cursor.before cursor.rest).toArray⟩

/-- The positions after `cursor` that up to `bound` characters of the set lead to, the furthest first. -/
def reach (set : CharSet) (bound : Option Nat) (cursor : Cursor) (found : List Cursor) : List Cursor :=
  go cursor.pos cursor.before cursor.rest bound found
where
  go (pos : Nat) (before : Option Char) : List Char → Option Nat → List Cursor → List Cursor
    | [], _, found => ⟨pos, before, []⟩ :: found
    | c :: rest, bound, found =>
      let here : Cursor := ⟨pos, before, c :: rest⟩
      if bound = some 0 || !set.mem c then here :: found
      else go (pos + 1) (some c) rest (bound.map (· - 1)) (here :: found)

def charRun (set : CharSet) (lo : Nat) (hi : Option Nat) (greedy : Bool) : Matcher α := fun c k =>
  let ends := (reach set hi c []).filter (c.pos + lo ≤ ·.pos)
  (if greedy then ends else ends.reverse).findSome? k

end Matcher

/-- What groups matched, in the order in which they closed. -/
abbrev Captures := List (Nat × List Char)

/-- Matches the expression, whose first group has the number `first`, and goes on with `k`. -/
def Expr.run : Expr → Nat → Matcher Captures
  | empty, _, c, k => k c
  | chars set, _, c, k =>
    match c.rest with
    | [] => none
    | x :: rest => if set.mem x then k (c.advance x rest) else none
  | look condition, _, c, k => if condition.holds c then k c else none
  | seq a b, first, c, k => a.run first c fun d => b.run (first + a.slots) d k
  | alt a b, first, c, k =>
    Matcher.choose true (fun _ => a.run first c k) (fun _ => b.run (first + a.slots) c k)
  | rep lo hi greedy e, first, c, k =>
    match e.set? with
    | some set => Matcher.charRun set lo hi greedy c k
    | none =>
      let more := match hi with
        | none => Matcher.many (e.run first) greedy c k
        | some hi => Matcher.atMost (e.run first) greedy c (hi - lo) (.ofContinuation c k)
      (Matcher.rounds (e.run first) c lo more).get c
  | group e, first, c, k =>
    e.run (first + 1) c fun d => (k d).map ((first, c.textTo d) :: ·)

/-- The leftmost match from the position on; group 0 is the whole match. -/
def Expr.search (e : Expr) (cursor : Cursor) : Option Captures :=
  cursor.ahead.findSome? fun c => (group e).run 0 c fun _ => some []

end Routing.Pattern
