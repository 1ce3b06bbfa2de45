import Routing.Yaml.Tag

/-! Tokens of YAML. Keys are found by the colon behind them, so the token that begins a key is
inserted afterwards where the key began. -/
namespace Routing.Yaml

inductive Token
  | directive (d : Directive)
  | documentStart
  | documentEnd
  | blockSequenceStart
  | blockMappingStart
  | blockEnd
  | flowSequenceStart
  | flowSequenceEnd
  | flowMappingStart
  | flowMappingEnd
  | blockEntry
  | flowEntry
  | key
  | value
  | alias (name : String)
  | anchor (name : String)
  | tag (tag : WrittenTag)
  | scalar (text : String) (plain block : Bool)
deriving DecidableEq, Repr

structure Place where
  rest : List Char
  index : Nat := 0
  line : Nat := 0
  column : Nat := 0
deriving DecidableEq, Repr

def Place.moveTo (p : Place) (count : Nat) : Place :=
  go p.index p.line p.column p.rest
where
  go (index line column : Nat) : List Char → Place
    | [] => ⟨[], index, line, column⟩
    | c :: rest =>
      if rest.length < count then ⟨c :: rest, index, line, column⟩
      else if isBreak c && !(c == '\r' && rest.head? == some '\n') then go (index + 1) (line + 1) 0 rest
      else go (index + 1) line (column + 1) rest

/-- A place where a key may have begun. -/
structure KeyStart where
  /-- Whether nothing but a key can stand there. -/
  required : Bool
  /-- How many tokens come before it. -/
  before : Nat
  index : Nat
  line : Nat
  column : Nat
deriving DecidableEq, Repr

structure Lexer where
  place : Place
  /-- The tokens so far. -/
  tokens : Array Token := #[]
  /-- The columns of the open block collections, the innermost first. -/
  indents : List Nat := []
  /-- Whether a key may begin here. -/
  keyAllowed : Bool := true
  /-- For each open flow collection, and for the text around them, where a key may have begun. -/
  keyStarts : List (Option KeyStart) := [none]
deriving Repr

namespace Lexer

def flowLevel (l : Lexer) : Nat := l.keyStarts.length - 1

def inFlow (l : Lexer) : Bool := l.flowLevel != 0

def push (l : Lexer) (t : Token) : Lexer := { l with tokens := l.tokens.push t }

def goTo (l : Lexer) (rest : List Char) : Lexer := { l with place := l.place.moveTo rest.length }

def step (l : Lexer) : Lexer := l.goTo l.place.rest.tail

/-- Forgets where a key may have begun; fails if it had to be one. -/
def dropKey? (l : Lexer) : Option Lexer :=
  match l.keyStarts with
  | some k :: outer => if k.required then none else some { l with keyStarts := none :: outer }
  | _ => some l

def noteKey? (l : Lexer) : Option Lexer :=
  if !l.keyAllowed then some l
  else do
    let l ← l.dropKey?
    let p := l.place
    let k : KeyStart :=
      { required := !l.inFlow && l.indents.head? == some p.column, before := l.tokens.size,
        index := p.index, line := p.line, column := p.column }
    return { l with keyStarts := some k :: l.keyStarts.tail }

/-- A key ends in the line where it began, and within 1024 characters. Places where it is too late
for that are forgotten. -/
def expireKeys? (l : Lexer) : Option Lexer := do
  let keyStarts ← l.keyStarts.mapM fun
    | none => some none
    | some k =>
      if k.line < l.place.line || k.index + 1024 < l.place.index then
        if k.required then none else some none
      else some (some k)
  return { l with keyStarts }

/-- Closes the block collections that are indented by more than `column`; `none` closes all. -/
def unroll (l : Lexer) (column : Option Nat) : Lexer :=
  if l.inFlow then l
  else
    let closed := l.indents.takeWhile fun i => column.all (· < i)
    { l with
      tokens := l.tokens ++ closed.map fun _ => Token.blockEnd
      indents := l.indents.drop closed.length }

/-- Opens a block collection at the column, if it is indented by more than the one around it. Its
token is put before the one with the number `before`. -/
def roll (l : Lexer) (column before : Nat) (t : Token) : Lexer :=
  if l.inFlow || l.indents.head?.any (column ≤ ·) then l
  else { l with indents := column :: l.indents, tokens := l.tokens.insertIdxIfInBounds before t }

/-- Skips to the next token: blanks, comments and line breaks. Tabs count as blanks where no key may
begin. The fuel bounds the number of lines. -/
def skip? : Nat → Lexer → Option Lexer
  | 0, _ => none
  | fuel + 1, l =>
    let l := if l.place.column = 0 && l.place.rest.head? = some '\uFEFF' then l.step else l
    let tabs := l.inFlow || !l.keyAllowed
    let rest := skipComment (l.place.rest.dropWhile fun c => c == ' ' || (tabs && c == '\t'))
    match lineBreak? rest with
    | some (_, rest) => skip? fuel { l.goTo rest with keyAllowed := l.keyAllowed || !l.inFlow }
    | none => some (l.goTo rest)

def finish? (l : Lexer) : Option Lexer :=
  (l.unroll none).dropKey?

/-- A token that ends all collections. -/
def boundary? (l : Lexer) (t : Token) (rest : List Char) : Option Lexer := do
  let l ← (l.unroll none).dropKey?
  return ({ l with keyAllowed := false }.goTo rest).push t

def flowStart? (l : Lexer) (t : Token) : Option Lexer := do
  let l ← l.noteKey?
  return ({ l with keyStarts := none :: l.keyStarts, keyAllowed := true }.step).push t

def flowEnd? (l : Lexer) (t : Token) : Option Lexer := do
  let l ← l.dropKey?
  let keyStarts := if l.inFlow then l.keyStarts.tail else l.keyStarts
  return ({ l with keyStarts, keyAllowed := false }.step).push t

def separator? (l : Lexer) : Option Lexer := do
  let l ← l.dropKey?
  return ({ l with keyAllowed := true }.step).push .flowEntry

/-- A dash or a question mark that opens an entry of a block collection. -/
def mark? (l : Lexer) (opening mark : Token) (keyAllowed : Bool) : Option Lexer := do
  if !l.inFlow && !l.keyAllowed then none
  let l ← (l.roll l.place.column l.tokens.size opening).dropKey?
  return ({ l with keyAllowed }.step).push mark

/-- A colon: what was noted as a possible key is one. -/
def value? (l : Lexer) : Option Lexer :=
  match l.keyStarts with
  | some k :: outer =>
    let l := { l with
      tokens := l.tokens.insertIdxIfInBounds k.before .key
      keyStarts := none :: outer }
    some (({ l.roll k.column k.before .blockMappingStart with keyAllowed := false }.step).push .value)
  | _ =>
    if !l.inFlow && !l.keyAllowed then none
    else
      let l := l.roll l.place.column l.tokens.size .blockMappingStart
      some (({ l with keyAllowed := !l.inFlow }.step).push .value)

/-- An anchor, an alias, a tag or a quoted scalar: a key may begin with it. -/
def named? (l : Lexer) (read : Option (Token × List Char)) : Option Lexer := do
  let l ← l.noteKey?
  let (t, rest) ← read
  return ({ l with keyAllowed := false }.goTo rest).push t

def plain? (l : Lexer) : Option Lexer := do
  let l ← l.noteKey?
  let indent := (l.indents.head?.map (· + 1)).getD 0
  let (text, broken, rest) ← Yaml.plain? l.inFlow indent l.place.column l.place.rest
  return ({ l with keyAllowed := broken }.goTo rest).push (.scalar (String.ofList text) true false)

def block? (l : Lexer) (folded : Bool) (rest : List Char) : Option Lexer := do
  let l ← l.dropKey?
  let (text, rest) ← Yaml.block? folded l.indents.head? rest
  return ({ l with keyAllowed := true }.goTo rest).push (.scalar (String.ofList text) false !folded)

def startsPlain (l : Lexer) (c : Char) (rest : List Char) : Bool :=
  if c = '-' then !rest.head?.any isSpace
  else if c = '?' || c = ':' then !l.inFlow && !atGap rest
  else !(isSpace c || isBreak c || ",[]\x7b\x7d#&*!|>'\"%@\x60".toList.contains c)

def token? (l : Lexer) (c : Char) (rest : List Char) : Option Lexer :=
  if l.place.column = 0 && c = '%' then do
    let (d, rest) ← directive? rest
    l.boundary? (.directive d) rest
  else if l.place.column = 0 && atDocumentMark (c :: rest) then
    l.boundary? (if c = '-' then .documentStart else .documentEnd) (rest.drop 2)
  else
    match c with
    | '[' => l.flowStart? .flowSequenceStart
    | '{' => l.flowStart? .flowMappingStart
    | ']' => l.flowEnd? .flowSequenceEnd
    | '}' => l.flowEnd? .flowMappingEnd
    | ',' => l.separator?
    | '*' => l.named? ((anchorName? rest).map fun (name, rest) => (.alias name, rest))
    | '&' => l.named? ((anchorName? rest).map fun (name, rest) => (.anchor name, rest))
    | '!' => l.named? ((tag? l.inFlow (c :: rest)).map fun (t, rest) => (.tag t, rest))
    | '\'' =>
      l.named? ((quoted? true (l.place.column + 1) rest).map fun (text, rest) =>
        (.scalar (String.ofList text) false false, rest))
    | '"' =>
      l.named? ((quoted? false (l.place.column + 1) rest).map fun (text, rest) =>
        (.scalar (String.ofList text) false false, rest))
    | c =>
      if c = '-' && atGap rest then l.mark? .blockSequenceStart .blockEntry true
      else if c = '?' && (l.inFlow || atGap rest) then l.mark? .blockMappingStart .key !l.inFlow
      else if c = ':' && (l.inFlow || atGap rest) then l.value?
      else if (c = '|' || c = '>') && !l.inFlow then l.block? (c = '>') rest
      else if l.startsPlain c rest then l.plain?
      else none

def run? : Nat → Lexer → Option Lexer
  | 0, _ => none
  | fuel + 1, l => do
    let l ← skip? (l.place.rest.length + 1) l
    let l ← l.expireKeys?
    let l := l.unroll (some l.place.column)
    match l.place.rest with
    | [] => l.finish?
    | c :: rest => do run? fuel (← l.token? c rest)

end Lexer

def isAllowed (c : Char) : Bool :=
  let n := c.toNat
  n == 0x09 || n == 0x0A || n == 0x0D || (0x20 ≤ n && n ≤ 0x7E) || n == 0x85 ||
    (0xA0 ≤ n && n ≤ 0xFFFD) || 0x10000 ≤ n

def tokens? (text : List Char) : Option (List Token) :=
  if !text.all isAllowed then none
  else (Lexer.run? (text.length + 1) { place := { rest := text } }).map (·.tokens.toList)

end Routing.Yaml
