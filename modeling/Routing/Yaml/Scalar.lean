/-! Scalars of YAML: plain ones, quoted ones, and blocks of lines. -/
namespace Routing.Yaml

/-- A line feed, a carriage return, the next-line character, or a line or paragraph separator. -/
def isBreak (c : Char) : Bool :=
  c == '\n' || c == '\r' || c.toNat == 0x85 || c.toNat == 0x2028 || c.toNat == 0x2029

def isSpace (c : Char) : Bool := c == ' ' || c == '\t'

def atGap (s : List Char) : Bool :=
  match s with
  | [] => true
  | c :: _ => isSpace c || isBreak c

/-- A line break as the text of a scalar holds it, and the rest. All are line feeds but the two
separators. -/
def lineBreak? : List Char → Option (Char × List Char)
  | '\r' :: '\n' :: rest => some ('\n', rest)
  | c :: rest =>
    if !isBreak c then none
    else some (if c.toNat == 0x2028 || c.toNat == 0x2029 then c else '\n', rest)
  | [] => none

def atDocumentMark : List Char → Bool
  | '-' :: '-' :: '-' :: rest | '.' :: '.' :: '.' :: rest => atGap rest
  | _ => false

def skipComment : List Char → List Char
  | '#' :: rest => rest.dropWhile (!isBreak ·)
  | s => s

structure Gap where
  /-- Spaces and tabs before the first line break. -/
  spaces : List Char := []
  /-- Whether a line ended. -/
  broken : Bool := false
  /-- The first line break, unless an escape has taken its place. -/
  first : Option Char := none
  /-- The other line breaks. -/
  more : List Char := []
deriving DecidableEq, Repr

/-- The text of a gap: a single line feed is a space, and the first of several is dropped. -/
def Gap.text (g : Gap) : List Char :=
  if !g.broken then g.spaces
  else
    match g.first with
    | none => g.more
    | some '\n' => if g.more.isEmpty then [' '] else g.more
    | some c => c :: g.more

/-- Reads the rest of a gap; gives the column after it, too. A tab before the column `indent` of a
new line is refused. The fuel bounds the length. -/
def gap? (indent : Nat) : Nat → Nat → Gap → List Char → Option (Gap × Nat × List Char)
  | 0, _, _, _ => none
  | fuel + 1, column, g, s =>
    match lineBreak? s with
    | some (c, rest) =>
      if g.broken then gap? indent fuel 0 { g with more := g.more ++ [c] } rest
      else gap? indent fuel 0 { spaces := [], broken := true, first := some c, more := [] } rest
    | none =>
      match s with
      | c :: rest =>
        if !isSpace c then some (g, column, s)
        else if !g.broken then gap? indent fuel (column + 1) { g with spaces := g.spaces ++ [c] } rest
        else if c = '\t' ∧ column < indent then none
        else gap? indent fuel (column + 1) g rest
      | [] => some (g, column, [])

/-! ## Plain scalars -/

def isFlowMark (c : Char) : Bool := c == ',' || c == '[' || c == ']' || c == '{' || c == '}'

/-- Reads a word of a plain scalar, up to a gap or a mark. In a flow collection a colon may not stand
before a mark. -/
def plainWord? (flow : Bool) : List Char → Option (List Char × List Char)
  | [] => some ([], [])
  | c :: rest =>
    if isSpace c || isBreak c then some ([], c :: rest)
    else if flow && c == ':' && rest.head?.any (fun d => isFlowMark d || d == '?') then none
    else if (c == ':' && atGap rest) || (flow && isFlowMark c) then some ([], c :: rest)
    else (plainWord? flow rest).map fun (word, rest) => (c :: word, rest)

/-- Reads on a plain scalar whose text so far is `text`, `before` being the gap after it. Also tells
whether the last gap ended a line. The fuel bounds the number of words. -/
def plainWords? (flow : Bool) (indent : Nat) :
    Nat → Nat → List Char → Gap → List Char → Option (List Char × Bool × List Char)
  | 0, _, _, _, _ => none
  | fuel + 1, column, text, before, s => do
    if (column = 0 && atDocumentMark s) || s.head? = some '#' then return (text, before.broken, s)
    let (word, rest) ← plainWord? flow s
    if word.isEmpty then return (text, before.broken, rest)
    let text := text ++ before.text ++ word
    if rest.isEmpty || !atGap rest then return (text, false, rest)
    let (g, column, rest) ← gap? indent (rest.length + 1) (column + word.length) {} rest
    if !flow && column < indent then return (text, g.broken, rest)
    plainWords? flow indent fuel column text g rest

/-- Reads a plain scalar that begins at the given column. Outside flow collections its further lines
are indented by at least `indent`. -/
def plain? (flow : Bool) (indent column : Nat) (s : List Char) : Option (List Char × Bool × List Char) :=
  plainWords? flow indent (s.length + 1) column [] {} s

/-! ## Quoted scalars -/

def hexValue? (c : Char) : Option Nat :=
  if '0' ≤ c ∧ c ≤ '9' then some (c.toNat - '0'.toNat)
  else if 'a' ≤ c ∧ c ≤ 'f' then some (c.toNat - 'a'.toNat + 10)
  else if 'A' ≤ c ∧ c ≤ 'F' then some (c.toNat - 'A'.toNat + 10)
  else none

def hexDigits? : Nat → Nat → List Char → Option (Nat × List Char)
  | 0, acc, s => some (acc, s)
  | n + 1, acc, c :: rest => do hexDigits? n (acc * 16 + (← hexValue? c)) rest
  | _ + 1, _, [] => none

def codePoint? (n : Nat) (s : List Char) : Option (Char × List Char) := do
  let (value, rest) ← hexDigits? n 0 s
  if h : value.isValidChar then some (Char.ofNatAux value h, rest) else none

def escape? : List Char → Option (Char × List Char)
  | [] => none
  | c :: rest =>
    match c with
    | '0' => some ('\x00', rest)
    | 'a' => some ('\x07', rest)
    | 'b' => some ('\x08', rest)
    | 't' | '\t' => some ('\t', rest)
    | 'n' => some ('\n', rest)
    | 'v' => some ('\x0b', rest)
    | 'f' => some ('\x0c', rest)
    | 'r' => some ('\r', rest)
    | 'e' => some ('\x1b', rest)
    | ' ' => some (' ', rest)
    | '"' => some ('"', rest)
    | '/' => some ('/', rest)
    | '\\' => some ('\\', rest)
    | 'N' => some ('\u0085', rest)
    | '_' => some ('\u00a0', rest)
    | 'L' => some ('\u2028', rest)
    | 'P' => some ('\u2029', rest)
    | 'x' => codePoint? 2 rest
    | 'u' => codePoint? 4 rest
    | 'U' => codePoint? 8 rest
    | _ => none

/-- Reads a word between quotes, up to a gap or the closing quote; tells whether an escaped line
break ended it. The fuel bounds its length. -/
def quotedWord? (single : Bool) : Nat → List Char → Option (List Char × Bool × List Char)
  | 0, _ => none
  | fuel + 1, s =>
    match s with
    | [] => some ([], false, [])
    | c :: rest =>
      if isSpace c || isBreak c then some ([], false, s)
      else if single then
        match c, rest with
        | '\'', '\'' :: rest =>
          (quotedWord? single fuel rest).map fun (word, e, rest) => ('\'' :: word, e, rest)
        | '\'', _ => some ([], false, s)
        | _, _ => (quotedWord? single fuel rest).map fun (word, e, rest) => (c :: word, e, rest)
      else if c = '"' then some ([], false, s)
      else if c = '\\' then
        match lineBreak? rest with
        | some (_, rest) => some ([], true, rest)
        | none => do
          let (d, rest) ← escape? rest
          let (word, e, rest) ← quotedWord? single fuel rest
          return (d :: word, e, rest)
      else (quotedWord? single fuel rest).map fun (word, e, rest) => (c :: word, e, rest)

/-- Reads on between quotes. No line may begin with the mark of a document. The fuel bounds the
number of words. -/
def quotedWords? (single : Bool) : Nat → Nat → List Char → List Char → Option (List Char × List Char)
  | 0, _, _, _ => none
  | fuel + 1, column, text, s => do
    if (column = 0 && atDocumentMark s) || s.isEmpty then none
    let (word, escaped, rest) ← quotedWord? single (s.length + 1) s
    let text := text ++ word
    if !escaped && rest.head? = some (if single then '\'' else '"') then return (text, rest.drop 1)
    let column := if escaped then 0 else column + (s.length - rest.length)
    let (g, column, rest) ← gap? 0 (rest.length + 1) column { broken := escaped } rest
    quotedWords? single fuel column (text ++ g.text) rest

def quoted? (single : Bool) (column : Nat) (s : List Char) : Option (List Char × List Char) :=
  quotedWords? single (s.length + 1) column [] s

/-! ## Blocks -/

/-- What becomes of the line breaks at the end of a block. -/
inductive Chomping
  | strip
  | clip
  | keep
deriving DecidableEq, Repr

def chomping : List Char → Chomping × List Char
  | '+' :: rest => (.keep, rest)
  | '-' :: rest => (.strip, rest)
  | s => (.clip, s)

def indentation? : List Char → Option (Option Nat × List Char)
  | '0' :: _ => none
  | c :: rest => if c.isDigit then some (some (c.toNat - '0'.toNat), rest) else some (none, c :: rest)
  | [] => some (none, [])

/-- Reads the rest of the line that opens a block: the sign and the digit, in either order. -/
def blockHeader? (s : List Char) : Option (Chomping × Option Nat × List Char) := do
  let (chomp, increment, rest) ← match chomping s with
    | (.clip, s) => do
      let (increment, rest) ← indentation? s
      let (chomp, rest) := if increment.isSome then chomping rest else (.clip, rest)
      pure (chomp, increment, rest)
    | (chomp, s) => do
      let (increment, rest) ← indentation? s
      pure (chomp, increment, rest)
  let rest := skipComment (rest.dropWhile isSpace)
  match lineBreak? rest with
  | some (_, rest) => return (chomp, increment, rest)
  | none => if rest.isEmpty then return (chomp, increment, rest) else none

/-- Skips blank lines and the indentation of the next line, up to the column `indent` if that is
known. Gives the line breaks, the column reached, and the largest column of all these lines. A tab
in the indentation is refused. The fuel bounds the length. -/
def blankLines? (indent : Option Nat) :
    Nat → Nat → Nat → List Char → List Char → Option (List Char × Nat × Nat × List Char)
  | 0, _, _, _, _ => none
  | fuel + 1, column, largest, breaks, s =>
    let open_ := indent.all (column < ·)
    match s with
    | c :: rest =>
      if open_ && c = ' ' then blankLines? indent fuel (column + 1) largest breaks rest
      else if open_ && c = '\t' then none
      else
        match lineBreak? s with
        | some (b, rest) => blankLines? indent fuel 0 (max largest column) (breaks ++ [b]) rest
        | none => some (breaks, column, max largest column, s)
    | [] => some (breaks, column, max largest column, [])

/-- Reads the lines of a block, `text` being what was read before, `first` the line break after it
and `breaks` those of the blank lines since. The fuel bounds the number of lines. -/
def blockLines? (folded : Bool) (chomp : Chomping) (indent : Nat) :
    Nat → Nat → List Char → Option Char → List Char → Bool → List Char → Option (List Char × List Char)
  | 0, _, _, _, _, _, _ => none
  | fuel + 1, column, text, first, breaks, spaced, s => do
    if column ≠ indent || s.isEmpty then
      let text := if chomp = .strip then text else text ++ first.toList
      return (if chomp = .keep then text ++ breaks else text, s)
    let begins := s.head?.any isSpace
    let glue :=
      if folded && first = some '\n' && !spaced && !begins then
        if breaks.isEmpty then [' '] else breaks
      else first.toList ++ breaks
    let line := s.takeWhile (!isBreak ·)
    let rest := s.dropWhile (!isBreak ·)
    let (first, rest) := match lineBreak? rest with
      | some (b, rest) => (some b, rest)
      | none => (none, rest)
    let column := if first.isSome then 0 else column + line.length
    let (breaks, column, _, rest) ← blankLines? (some indent) (rest.length + 1) column 0 [] rest
    blockLines? folded chomp indent fuel column (text ++ glue ++ line) first breaks begins rest

/-- Reads a block from behind its mark, `parent` being the indentation of the collection around it,
if there is one. -/
def block? (folded : Bool) (parent : Option Nat) (s : List Char) : Option (List Char × List Char) := do
  let (chomp, increment, rest) ← blockHeader? s
  let known := increment.map (parent.getD 0 + ·)
  let (breaks, column, largest, rest) ← blankLines? known (rest.length + 1) 0 0 [] rest
  let least := max 1 ((parent.map (· + 1)).getD 0)
  let indent := known.getD (max largest least)
  blockLines? folded chomp indent (rest.length + 1) column [] none breaks false rest

end Routing.Yaml
