import Routing.Router.Registry

/-! Chunks: several routes in one pattern, with a fixed number of groups for each, so that the last
group in a match tells the route. -/
namespace Routing

structure Chunk where
  pattern : Pattern
  /-- How many groups each route takes. -/
  width : Nat
  /-- The position and the number of parameters of each route. -/
  entries : List (Nat × Nat)
  /-- The last group of each route, with the place of the route in the chunk. -/
  boundaries : List (Nat × Nat)
deriving DecidableEq, Repr

namespace Chunk

/-- One group more than any of the routes has parameters. -/
def widthOf (members : List (Nat × Route)) : Nat :=
  (members.map fun (_, r) => r.parameterCount).foldl max 0 + 1

/-- The alternative of a route: its expression, and empty groups up to the width. -/
def alternative (width : Nat) (r : Route) : String :=
  "(?:" ++ (r.regex.map RouteRegex.source).getD "" ++ ")" ++
    String.join (List.replicate (width - r.parameterCount) "()")

def combined (members : List (Nat × Route)) : String :=
  "^(?:" ++ "|".intercalate (members.map fun (_, r) => alternative (widthOf members) r) ++ ")$"

def compile (members : List (Nat × Route)) : Except Error Chunk :=
  let width := widthOf members
  match Pattern.compile? (combined members) with
  | none => .error (.invalidPattern (combined members))
  | some pattern => .ok {
      pattern, width
      entries := members.map fun (position, r) => (position, r.parameterCount)
      boundaries := members.zipIdx.map fun (_, i) => ((i + 1) * width, i) }

/-- The number of the last group that took part in a match. -/
def lastPopulated? (groups : List (Option String)) : Option Nat :=
  ((groups.zipIdx 1).filter (·.1.isSome)).getLast?.map Prod.snd

/-- The position of the route that accepts the path, with the values of its parameters. -/
def find? (c : Chunk) (path : String) : Option (Nat × List String) := do
  let groups ← c.pattern.captures? path
  let boundary ← lastPopulated? groups
  let place ← c.boundaries.lookup boundary
  let (position, count) ← c.entries[place]?
  let first := boundary + 1 - c.width
  return (position, (List.range count).map fun i => (groups[first + i - 1]?.join).getD "")

/-- Cuts a list into pieces of `size`, the last one possibly shorter. The fuel bounds their number. -/
def split {α : Type} (size : Nat) : Nat → List α → List (List α)
  | 0, _ => []
  | fuel + 1, l => if l.isEmpty then [] else l.take size :: split size fuel (l.drop size)

end Chunk

abbrev ChunkTable := List Chunk

namespace ChunkTable

def compile (size : Nat) (members : List (Nat × Route)) : Except Error ChunkTable :=
  (Chunk.split size members.length members).mapM Chunk.compile

def find? (table : ChunkTable) (path : String) : Option (Nat × List String) :=
  table.findSome? (·.find? path)

end ChunkTable
end Routing
