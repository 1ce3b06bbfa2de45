/-! Words of a command line: options with a value, flags, and other words. -/
namespace Routing.CommandLine

/-- Why no command can be made of a command line. -/
inductive UsageError
  /-- Help was asked for. -/
  | help
  /-- There is no command at all. -/
  | noCommand
  | unknownCommand
  | missingArgument
  | missingValue
  | unknownArgument
  | repeatedOption
  /-- A value is attached to a flag, which takes none. -/
  | needlessValue
deriving DecidableEq, Repr

structure ValueOption where
  name : String
  letter : Char
  mayBeEmpty : Bool
deriving DecidableEq, Repr

/-- What may follow the name of a command. -/
structure Grammar where
  options : List ValueOption
  flags : List String := []
  /-- How many words are taken; `none` is any number. -/
  words : Option Nat := some 0
deriving DecidableEq, Repr

structure Given where
  values : List (String × String) := []
  flags : List String := []
  /-- In the order in which they come. -/
  words : List String := []
  /-- An option that was named last, with the word after it. It is not checked before the next
  argument is. -/
  pending : Option (ValueOption × Option String) := none
deriving DecidableEq, Repr

namespace Given

def set (g : Given) (o : ValueOption) (value : String) : Except UsageError Given :=
  if (g.values.lookup o.name).isSome then .error .repeatedOption
  else if value.isEmpty && !o.mayBeEmpty then .error .missingValue
  else .ok { g with values := (o.name, value) :: g.values }

/-- Checks the option that was named last. -/
def settle (g : Given) : Except UsageError Given :=
  match g.pending with
  | none => .ok g
  | some (_, none) => .error .missingValue
  | some (o, some value) => { g with pending := none }.set o value

def name (g : Given) (o : ValueOption) (attached : Option String) : Except UsageError Given := do
  let g ← g.settle
  match attached with
  | some value => g.set o value
  | none => return { g with pending := some (o, none) }

end Given

namespace Grammar

/-- Splits off the value that is attached by an equals sign. -/
def attachment (s : List Char) : List Char × Option (List Char) :=
  (s.takeWhile (· != '='),
    match s.dropWhile (· != '=') with
    | [] => none
    | _ :: value => some value)

def long (grammar : Grammar) (g : Given) (s : List Char) : Except UsageError Given :=
  let (name, value) := attachment s
  let name := String.ofList name
  match grammar.options.find? (·.name == name) with
  | some o => g.name o (value.map String.ofList)
  | none =>
    if name != "help" && !grammar.flags.contains name then .error .unknownArgument
    else if value.isSome then .error .needlessValue
    else do
      let g ← g.settle
      if name = "help" then throw .help
      if g.flags.contains name then throw .repeatedOption
      return { g with flags := name :: g.flags }

/-- An argument that begins with one dash. A value may follow the letter of its option, with or
without an equals sign. -/
def short (grammar : Grammar) (g : Given) (letter : Char) (rest : List Char) : Except UsageError Given :=
  match grammar.options.find? (·.letter == letter) with
  | some o =>
    g.name o <| match rest with
      | [] => none
      | '=' :: value => some (String.ofList value)
      | value => some (String.ofList value)
  | none => if letter = 'h' then g.settle.bind fun _ => .error .help else .error .unknownArgument

def word (grammar : Grammar) (g : Given) (s : String) : Except UsageError Given :=
  if grammar.words.all (g.words.length < ·) then do
    let g ← g.settle
    return { g with words := g.words ++ [s] }
  else .error .unknownArgument

/-- Reads arguments one after the other. All that follow two dashes are words. -/
def read (grammar : Grammar) (g : Given) : List String → Except UsageError Given
  | [] => g.settle
  | arg :: rest =>
    match arg.toList with
    | ['-', '-'] => do (← rest.foldlM grammar.word g).settle
    | '-' :: '-' :: s => do grammar.read (← grammar.long g s) rest
    | '-' :: letter :: s => do grammar.read (← grammar.short g letter s) rest
    | _ =>
      match g.pending with
      | some (o, none) => grammar.read { g with pending := some (o, some arg) } rest
      | _ => do grammar.read (← grammar.word g arg) rest

end Grammar
end Routing.CommandLine
