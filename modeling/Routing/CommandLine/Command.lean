import Routing.CommandLine.Arguments

/-! The commands, and how a command line names them. -/
namespace Routing.CommandLine

inductive Command
  /-- Lists all routes of a table. -/
  | list (table : String)
  /-- Finds the route of a request. -/
  | resolve (table method path : String)
  /-- Makes the path of a named route. -/
  | generate (table name : String) (pairs : List String) (longUrls : Bool)
deriving DecidableEq, Repr

namespace Command

def table : Command → String
  | list table | resolve table _ _ | generate table _ _ _ => table

def tableOption : ValueOption := ⟨"table", 't', false⟩
def methodOption : ValueOption := ⟨"method", 'm', true⟩

def grammars : List (String × Grammar) := [
  ("routes", { options := [tableOption] }),
  ("match", { options := [tableOption, methodOption], words := some 1 }),
  ("generate", { options := [tableOption], flags := ["long-urls"], words := none })]

def ofGiven (name : String) (g : Given) : Except UsageError Command :=
  match name, g.values.lookup "table", g.words with
  | "routes", some table, _ => .ok (.list table)
  | "match", some table, path :: _ => .ok (.resolve table ((g.values.lookup "method").getD "GET") path)
  | "generate", some table, name :: pairs =>
    .ok (.generate table name pairs (g.flags.contains "long-urls"))
  | _, _, _ => .error .missingArgument

/-- Whether a command has this name; help is a command, too. -/
def isName (name : String) : Bool := name == "help" || (grammars.lookup name).isSome

def help : List String → UsageError
  | [] => .help
  | [name] => if isName name then .help else .unknownCommand
  | _ => .unknownCommand

/-- What comes of two dashes where a command is expected: behind them, nothing names one. -/
def afterDashes : List String → UsageError
  | [] => .noCommand
  | name :: _ => if isName name then .unknownArgument else .unknownCommand

/-- The command that a command line asks for. No option but help stands before its name. -/
def ofArguments : List String → Except UsageError Command
  | [] => .error .noCommand
  | "help" :: rest => .error (help rest)
  | "--" :: rest => .error (afterDashes rest)
  | name :: rest => do
    match grammars.lookup name with
    | some grammar => ofGiven name (← grammar.read {} rest)
    | none =>
      if name.startsWith "-" && name != "-" then
        ofGiven name (← ({ options := [] } : Grammar).read {} [name])
      else throw .unknownCommand

end Command
end Routing.CommandLine
