import Routing.Config

/-! JSON values as a text writes them, and the strict reading of such texts. -/
namespace Routing

inductive Json
  | null
  | truth (b : Bool)
  /-- A number, with its value if it is natural, written in digits alone, and not too large. -/
  | number (natural? : Option Nat)
  /-- A string, with its text unless an escape in it names half a character. -/
  | string (text? : Option String)
  | array (items : List Json)
  | object (members : List (Option String × Json))

namespace Json

/-- Skips blanks; only four characters are blank in JSON. -/
def skip (s : List Char) : List Char :=
  s.dropWhile fun c => c == ' ' || c == '\t' || c == '\n' || c == '\r'

def fourDigits? : List Char → Option (Nat × List Char)
  | a :: b :: c :: d :: rest => (digitsValue? 16 0 [a, b, c, d]).map (·, rest)
  | _ => none

def escape? : Char → Option Nat
  | '"' => some 0x22
  | '\\' => some 0x5C
  | '/' => some 0x2F
  | 'b' => some 0x08
  | 'f' => some 0x0C
  | 'n' => some 0x0A
  | 'r' => some 0x0D
  | 't' => some 0x09
  | _ => none

/-- The code units of a string up to its closing quote. The fuel bounds their number. -/
def units? : Nat → List Char → Option (List Nat × List Char)
  | 0, _ => none
  | fuel + 1, s =>
    match s with
    | [] => none
    | '"' :: rest => some ([], rest)
    | '\\' :: 'u' :: rest => do
      let (n, rest) ← fourDigits? rest
      let (units, rest) ← units? fuel rest
      return (n :: units, rest)
    | '\\' :: c :: rest => do
      let n ← escape? c
      let (units, rest) ← units? fuel rest
      return (n :: units, rest)
    | c :: rest =>
      if c.toNat < 0x20 || c = '\\' then none
      else do
        let (units, rest) ← units? fuel rest
        return (c.toNat :: units, rest)

/-- The text of code units: two surrogates in a row are one character, one alone is none. -/
def text? : List Nat → Option (List Char)
  | [] => some []
  | [n] => if 0xD800 ≤ n ∧ n < 0xE000 then none else some [Char.ofNat n]
  | n :: m :: rest =>
    if 0xD800 ≤ n ∧ n < 0xDC00 ∧ 0xDC00 ≤ m ∧ m < 0xE000 then
      (text? rest).map (Char.ofNat (0x10000 + (n - 0xD800) * 0x400 + (m - 0xDC00)) :: ·)
    else if 0xD800 ≤ n ∧ n < 0xE000 then none
    else (text? (m :: rest)).map (Char.ofNat n :: ·)

def string? (s : List Char) : Option (Option String × List Char) := do
  let (units, rest) ← units? (s.length + 1) s
  return ((text? units).map String.ofList, rest)

def digits? (s : List Char) : Option (List Char × List Char) :=
  match s.takeWhile Char.isDigit with
  | [] => none
  | digits => some (digits, s.dropWhile Char.isDigit)

/-- Reads a number; no zero may stand before its other digits. -/
def number? (s : List Char) : Option (Json × List Char) := do
  let (negative, s) := match s with
    | '-' :: rest => (true, rest)
    | s => (false, s)
  let (whole, s) ← match s with
    | '0' :: rest => if rest.head?.any Char.isDigit then none else some (['0'], rest)
    | s => digits? s
  let (fraction, s) ← match s with
    | '.' :: rest => do
      let (_, rest) ← digits? rest
      pure (true, rest)
    | s => pure (false, s)
  let (exponent, s) ← match s with
    | 'e' :: rest | 'E' :: rest => do
      let rest := match rest with
        | '+' :: rest | '-' :: rest => rest
        | rest => rest
      let (_, rest) ← digits? rest
      pure (true, rest)
    | s => pure (false, s)
  let natural? :=
    if negative || fraction || exponent then none
    else (digitsValue? 10 0 whole).filter (· < Config.sizeBound)
  return (number natural?, s)

mutual

/-- Reads a value and the blanks before it. The fuel bounds the number of steps. -/
def value? : Nat → List Char → Option (Json × List Char)
  | 0, _ => none
  | fuel + 1, s =>
    match skip s with
    | '[' :: rest => do
      match skip rest with
      | ']' :: rest => return (array [], rest)
      | s =>
        let (items, rest) ← items? fuel s
        return (array items, rest)
    | '{' :: rest => do
      match skip rest with
      | '}' :: rest => return (object [], rest)
      | s =>
        let (members, rest) ← members? fuel s
        return (object members, rest)
    | '"' :: rest => (string? rest).map fun (text?, rest) => (string text?, rest)
    | 'n' :: 'u' :: 'l' :: 'l' :: rest => some (null, rest)
    | 't' :: 'r' :: 'u' :: 'e' :: rest => some (truth true, rest)
    | 'f' :: 'a' :: 'l' :: 's' :: 'e' :: rest => some (truth false, rest)
    | s => number? s

def items? : Nat → List Char → Option (List Json × List Char)
  | 0, _ => none
  | fuel + 1, s => do
    let (item, rest) ← value? fuel s
    match skip rest with
    | ']' :: rest => return ([item], rest)
    | ',' :: rest =>
      let (items, rest) ← items? fuel rest
      return (item :: items, rest)
    | _ => none

def members? : Nat → List Char → Option (List (Option String × Json) × List Char)
  | 0, _ => none
  | fuel + 1, s => do
    match skip s with
    | '"' :: rest =>
      let (key, rest) ← string? rest
      match skip rest with
      | ':' :: rest =>
        let (value, rest) ← value? fuel rest
        match skip rest with
        | '}' :: rest => return ([(key, value)], rest)
        | ',' :: rest =>
          let (members, rest) ← members? fuel rest
          return ((key, value) :: members, rest)
        | _ => none
      | _ => none
    | _ => none

end

def parse? (text : String) : Option Json := do
  let (value, rest) ← value? (2 * text.length + 2) text.toList
  if (skip rest).isEmpty then return value else none

end Json
end Routing
