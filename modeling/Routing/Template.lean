import Routing.Text.Blank

/-! Templates: texts in which placeholders such as `{name}` and `{name:pattern}` stand for the parts
that vary. Every text is a template; what is no placeholder stands for itself. -/
namespace Routing

/-- A placeholder with the pattern that it brings, which may be empty. -/
structure Placeholder where
  name : List Char
  pattern : List Char
deriving DecidableEq, Repr

namespace Placeholder

def isNameStart (c : Char) : Bool := c.isAlpha || c == '_'

def isNamePart (c : Char) : Bool := c.isAlphanum || c == '_'

/-- What follows the brace that closes a placeholder here, blanks before it left out. -/
def closed? (s : List Char) : Option (List Char) :=
  match s.dropWhile Text.isBlank with
  | '}' :: rest => some rest
  | _ => none

/-- Reads a pattern up to the brace that closes its placeholder, and gives what follows the brace.
A backslash keeps the next character from closing or opening anything; one pair of braces may stand
inside, and `inside` tells whether it is open. -/
def body (inside : Bool) (s : List Char) : Option (List Char × List Char) :=
  match if inside then none else closed? s with
  | some rest => some ([], rest)
  | none =>
    match s with
    | [] => none
    | '\\' :: c :: rest =>
      if c = '\n' then none else (body inside rest).map fun (p, rest) => ('\\' :: c :: p, rest)
    | ['\\'] => none
    | '{' :: rest => if inside then none else (body true rest).map fun (p, rest) => ('{' :: p, rest)
    | '}' :: rest => (body false rest).map fun (p, rest) => ('}' :: p, rest)
    | c :: rest => (body inside rest).map fun (p, rest) => (c :: p, rest)

def read? (s : List Char) : Option (Placeholder × List Char) :=
  let s := s.dropWhile Text.isBlank
  let name := s.takeWhile isNamePart
  if !(name.head?.any isNameStart) then none
  else
    match (s.dropWhile isNamePart).dropWhile Text.isBlank with
    | '}' :: rest => some (⟨name, []⟩, rest)
    | ':' :: rest =>
      (body false (rest.dropWhile Text.isBlank)).map fun (p, rest) => (⟨name, p⟩, rest)
    | _ => none

end Placeholder

inductive Piece
  | literal (text : List Char)
  | placeholder (p : Placeholder)
deriving DecidableEq, Repr

namespace Piece

def addChar (c : Char) : List Piece → List Piece
  | literal text :: pieces => literal (c :: text) :: pieces
  | pieces => literal [c] :: pieces

/-- Cuts a template from left to right, taking a placeholder wherever one begins. The fuel bounds
the number of pieces and characters. -/
def scan : Nat → List Char → List Piece
  | 0, _ => []
  | _, [] => []
  | fuel + 1, c :: rest =>
    match if c = '{' then Placeholder.read? rest else none with
    | some (p, rest) => placeholder p :: scan fuel rest
    | none => addChar c (scan fuel rest)

def ofTemplate (template : String) : List Piece :=
  scan template.length template.toList

end Piece
end Routing
