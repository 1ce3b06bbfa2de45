import Routing.Yaml.Scalar

/-! Names of YAML: anchors, tags, and the directives before a document. -/
namespace Routing.Yaml

def isWordChar (c : Char) : Bool := c.isAlphanum || c == '_' || c == '-'

/-- Reads the name of an anchor. A gap or one of a few marks must follow it. -/
def anchorName? (s : List Char) : Option (String × List Char) :=
  let name := s.takeWhile isWordChar
  let rest := s.dropWhile isWordChar
  if name.isEmpty || !(atGap rest || rest.head?.any "?:,]\x7d%@\x60".toList.contains) then none
  else some (String.ofList name, rest)

def utf8Width (n : Nat) : Nat :=
  if n < 0x80 then 1
  else if 0xC0 ≤ n ∧ n < 0xE0 then 2
  else if 0xE0 ≤ n ∧ n < 0xF0 then 3
  else if 0xF0 ≤ n ∧ n < 0xF8 then 4
  else 0

def escapedByte? : List Char → Option (Nat × List Char)
  | '%' :: rest => hexDigits? 2 0 rest
  | _ => none

def escapedTail? : Nat → Nat → List Char → Option (Nat × List Char)
  | 0, acc, s => some (acc, s)
  | n + 1, acc, s => do
    let (b, rest) ← escapedByte? s
    if b / 64 = 2 then escapedTail? n (acc * 64 + b % 64) rest else none

def escapedChar? (s : List Char) : Option (Char × List Char) := do
  let (b, rest) ← escapedByte? s
  let lead := match utf8Width b with
    | 1 => b
    | 2 => b % 32
    | 3 => b % 16
    | _ => b % 8
  if utf8Width b = 0 then none
  let (n, rest) ← escapedTail? (utf8Width b - 1) lead rest
  return (Char.ofNat n, rest)

/-- Reads the characters that tags may hold; three marks count only where `marks` is set. The fuel
bounds their number. -/
def tagChars? (marks : Bool) : Nat → List Char → Option (List Char × List Char)
  | 0, _ => none
  | fuel + 1, s =>
    match s with
    | [] => some ([], [])
    | c :: rest =>
      if c = '%' then do
        let (d, rest) ← escapedChar? s
        let (text, rest) ← tagChars? marks fuel rest
        return (d :: text, rest)
      else if isWordChar c || ";/?:@&=+$.!~*'()".toList.contains c ||
          (marks && (c == ',' || c == '[' || c == ']')) then
        (tagChars? marks fuel rest).map fun (text, rest) => (c :: text, rest)
      else some ([], s)

/-- Reads a handle, which begins with an exclamation mark and may end with one. -/
def tagHandle? : List Char → Option (List Char × List Char)
  | '!' :: rest =>
    let name := rest.takeWhile isWordChar
    match rest.dropWhile isWordChar with
    | '!' :: rest => some ('!' :: name ++ ['!'], rest)
    | rest => some ('!' :: name, rest)
  | _ => none

/-- A tag as it is written: a handle, which stands for a text that comes before it, and a suffix. -/
structure WrittenTag where
  handle : String
  suffix : String
deriving DecidableEq, Repr

/-- Reads a tag; a gap must follow it, or a comma in a flow collection. -/
def tag? (flow : Bool) (s : List Char) : Option (WrittenTag × List Char) := do
  let (tag, rest) ← match s with
    | '!' :: '<' :: rest => do
      let (text, rest) ← tagChars? true (rest.length + 1) rest
      match rest with
      | '>' :: rest => if text.isEmpty then none else some (⟨"", String.ofList text⟩, rest)
      | _ => none
    | s => do
      let (handle, rest) ← tagHandle? s
      let (text, rest) ← tagChars? false (rest.length + 1) rest
      if 2 ≤ handle.length ∧ handle.getLast? = some '!' then
        if text.isEmpty then none else some (⟨String.ofList handle, String.ofList text⟩, rest)
      else
        let suffix := handle.drop 1 ++ text
        if suffix.isEmpty then some (⟨"", "!"⟩, rest) else some (⟨"!", String.ofList suffix⟩, rest)
  if atGap rest || (flow && rest.head? = some ',') then return (tag, rest) else none

inductive Directive
  | version (major minor : Nat)
  | tag (handle suffix : String)
deriving DecidableEq, Repr

/-- Reads a number of at most nine digits. -/
def versionNumber? (s : List Char) : Option (Nat × List Char) :=
  let digits := s.takeWhile Char.isDigit
  if digits.isEmpty || 9 < digits.length then none
  else some (digits.foldl (fun n c => n * 10 + (c.toNat - '0'.toNat)) 0, s.dropWhile Char.isDigit)

def directive? (s : List Char) : Option (Directive × List Char) := do
  let name := s.takeWhile isWordChar
  let rest := s.dropWhile isWordChar
  if !atGap rest then none
  let s := rest.dropWhile isSpace
  let (directive, rest) ← match String.ofList name with
    | "YAML" => do
      let (major, rest) ← versionNumber? s
      match rest with
      | '.' :: rest => do
        let (minor, rest) ← versionNumber? rest
        pure (Directive.version major minor, rest)
      | _ => none
    | "TAG" => do
      let (handle, rest) ← tagHandle? s
      if handle ≠ ['!'] ∧ handle.getLast? ≠ some '!' then none
      if !rest.head?.any isSpace then none
      let rest := rest.dropWhile isSpace
      let (text, rest) ← tagChars? true (rest.length + 1) rest
      if text.isEmpty || !atGap rest then none
      else pure (Directive.tag (String.ofList handle) (String.ofList text), rest)
    | _ => none
  let rest := skipComment (rest.dropWhile isSpace)
  match lineBreak? rest with
  | some (_, rest) => return (directive, rest)
  | none => if rest.isEmpty then return (directive, rest) else none

end Routing.Yaml
