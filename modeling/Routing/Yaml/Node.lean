import Routing.Yaml.Token

/-! Nodes of YAML, and the one document that a text may hold. -/
namespace Routing.Yaml

structure Scalar where
  text : String := ""
  plain : Bool := true
  /-- Whether it is a block that keeps its line breaks. -/
  literal : Bool := false
  tag : Option String := none
deriving DecidableEq, Repr

inductive Node
  | scalar (s : Scalar)
  | sequence (items : List Node)
  | mapping (members : List (Node × Node))
  /-- A node that stands elsewhere, by its number. -/
  | alias (number : Nat)
deriving Repr

/-- What stands where a node is left out. -/
def Node.empty : Node := .scalar {}

structure Document where
  root : Node
  /-- The nodes with an anchor, in the order in which they begin, and their numbers. -/
  anchored : Array (Nat × Node)

/-- The node that is meant; of several with one number it is the last. -/
def Document.target? (d : Document) : Node → Option Node
  | .alias number => (d.anchored.findRev? (·.1 == number)).map Prod.snd
  | node => some node

structure NodeReader where
  tokens : List Token
  /-- What the handles of tags stand for. -/
  handles : List (String × String)
  /-- The numbers of anchors. -/
  numbers : List (String × Nat) := []
  anchored : Array (Nat × Node) := #[]

namespace NodeReader

abbrev Read := StateT NodeReader Option

def peek : Read (Option Token) := do return (← get).tokens.head?

def skip : Read Unit := modify fun r => { r with tokens := r.tokens.tail }

def skip? (t : Token) : Read Bool := do
  if (← peek) = some t then
    skip
    return true
  return false

def expect (t : Token) : Read Unit := do
  if !(← skip? t) then failure

def resolveTag (t : WrittenTag) : Read String := do
  if t.handle.isEmpty then return t.suffix
  match (← get).handles.lookup t.handle with
  | some start => return start ++ t.suffix
  | none => failure

/-- Gives an anchor its number, which is how many names there are before it. A name that is used
again moves to a new number, and its old one does not become free. -/
def number (name : String) : Read Nat :=
  modifyGet fun r =>
    let n := r.numbers.length
    (n, { r with numbers := (name, n) :: r.numbers.filter (·.1 != name) })

/-- Makes room for a node that begins here and has the given number. -/
def reserve (n : Nat) : Read Nat :=
  modifyGet fun r => (r.anchored.size, { r with anchored := r.anchored.push (n, .empty) })

/-- Reads the anchor and the tag before a node, which come in any order. -/
def properties : Read (Option String × Option WrittenTag) := do
  let anchor : Read (Option String) := do
    match ← peek with
    | some (.anchor name) => do skip; return some name
    | _ => return none
  let tag : Read (Option WrittenTag) := do
    match ← peek with
    | some (.tag t) => do skip; return some t
    | _ => return none
  if let some name ← anchor then return (some name, ← tag)
  let some t ← tag | return (none, none)
  return (← anchor, some t)

/-- Reads a node, or takes it as left out before one of the given tokens. -/
def orEmpty (stops : List Token) (node : Read Node) : Read Node := do
  match ← peek with
  | some t => if stops.contains t then return .empty else node
  | none => node

mutual

/-- Reads a node. Collections that are marked by indentation are read only if `block` is set, and
a sequence that is not indented only if `flat` is. The fuel bounds the depth and the length. -/
def node (block flat : Bool) : Nat → Read Node
  | 0 => failure
  | fuel + 1 => do
    if let some (.alias name) ← peek then
      skip
      match (← get).numbers.lookup name with
      | some n => return .alias n
      | none => failure
    let (anchor, written) ← properties
    let tag ← written.mapM resolveTag
    match anchor with
    | none => content block flat written.isSome tag fuel
    | some name => do
      let n ← number name
      let place ← reserve n
      let result ← content block flat true tag fuel
      modify fun r => { r with anchored := r.anchored.setIfInBounds place (n, result) }
      return result

/-- Reads a node without its properties; it may be left out if it has some. -/
def content (block flat named : Bool) (tag : Option String) : Nat → Read Node
  | 0 => failure
  | fuel + 1 => do
    match ← peek with
    | some (.scalar text plain literal) =>
      skip
      return .scalar { text, plain, literal, tag := if tag = some "!" then none else tag }
    | some .flowSequenceStart =>
      skip
      return .sequence (← flowItems true fuel)
    | some .flowMappingStart =>
      skip
      return .mapping (← flowMembers true fuel)
    | t =>
      if t = some .blockEntry && flat then return .sequence (← flatItems fuel)
      else if t = some .blockSequenceStart && block then
        skip
        return .sequence (← blockItems fuel)
      else if t = some .blockMappingStart && block then
        skip
        return .mapping (← blockMembers fuel)
      else if named then return .scalar { tag }
      else failure

def blockItems : Nat → Read (List Node)
  | 0 => failure
  | fuel + 1 => do
    if ← skip? .blockEnd then return []
    expect .blockEntry
    let item ← orEmpty [.blockEntry, .blockEnd] (node true false fuel)
    return item :: (← blockItems fuel)

def flatItems : Nat → Read (List Node)
  | 0 => failure
  | fuel + 1 => do
    if !(← skip? .blockEntry) then return []
    let item ← orEmpty [.blockEntry, .key, .value, .blockEnd] (node true false fuel)
    return item :: (← flatItems fuel)

def blockMembers : Nat → Read (List (Node × Node))
  | 0 => failure
  | fuel + 1 => do
    if ← skip? .blockEnd then return []
    expect .key
    let stops := [.key, .value, .blockEnd]
    let key ← orEmpty stops (node true true fuel)
    let value ← if ← skip? .value then orEmpty stops (node true true fuel) else pure .empty
    return (key, value) :: (← blockMembers fuel)

/-- Reads the items of a sequence in brackets, and its end. An item that is marked as a key is a
mapping with one member. A missing key takes the place of the token that it is missing before. -/
def flowItems (first : Bool) : Nat → Read (List Node)
  | 0 => failure
  | fuel + 1 => do
    if ← skip? .flowSequenceEnd then return []
    if !first then
      expect .flowEntry
      if ← skip? .flowSequenceEnd then return []
    let item ←
      if ← skip? .key then do
        let missing := (← peek).any [.value, .flowEntry, .flowSequenceEnd].contains
        if missing then skip
        let key ← if missing then pure .empty else node false false fuel
        let value ←
          if ← skip? .value then orEmpty [.flowEntry, .flowSequenceEnd] (node false false fuel)
          else pure .empty
        pure (.mapping [(key, value)])
      else node false false fuel
    return item :: (← flowItems false fuel)

def flowMembers (first : Bool) : Nat → Read (List (Node × Node))
  | 0 => failure
  | fuel + 1 => do
    if ← skip? .flowMappingEnd then return []
    if !first then
      expect .flowEntry
      if ← skip? .flowMappingEnd then return []
    let member ←
      if ← skip? .key then do
        let key ← orEmpty [.value, .flowEntry, .flowMappingEnd] (node false false fuel)
        let value ←
          if ← skip? .value then orEmpty [.flowEntry, .flowMappingEnd] (node false false fuel)
          else pure .empty
        pure (key, value)
      else do pure (← node false false fuel, .empty)
    return member :: (← flowMembers false fuel)

end

end NodeReader

/-- Reads the directives before a document: one version at most, which is 1.1 or 1.2, and what
handles stand for, each of them once. -/
def directives? (version : Bool) (handles : List (String × String)) :
    List Token → Option (List (String × String) × List Token)
  | .directive (.version major minor) :: rest =>
    if version || major ≠ 1 || !(minor = 1 || minor = 2) then none else directives? true handles rest
  | .directive (.tag handle start) :: rest =>
    if (handles.lookup handle).isSome then none
    else directives? version ((handle, start) :: handles) rest
  | rest => some (handles, rest)

def standardHandles : List (String × String) :=
  [("!", "!"), ("!!", "tag:yaml.org,2002:")]

/-- The document of a text with these tokens. Only its end may come after it. -/
def Document.ofTokens? (tokens : List Token) : Option Document := do
  let (handles, rest) ← directives? false [] tokens
  let reader rest : NodeReader := { tokens := rest, handles := handles ++ standardHandles }
  let node := NodeReader.node true false (3 * tokens.length + 3)
  let (root, r) ← match rest with
    | [] => if tokens.isEmpty then some (.empty, reader []) else none
    | .documentStart :: rest =>
      match rest with
      | [] | .directive _ :: _ | .documentStart :: _ | .documentEnd :: _ => some (.empty, reader rest)
      | rest => node.run (reader rest)
    | rest => if rest.length = tokens.length then node.run (reader rest) else none
  if (r.tokens.dropWhile (· == .documentEnd)).isEmpty then some ⟨root, r.anchored⟩ else none

end Routing.Yaml
