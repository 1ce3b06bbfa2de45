import Routing.Unicode.Category
import Routing.Unicode.Property

/-! Strings and lists of strings as messages quote them. -/
namespace Routing.Text

/-- Characters that show nothing by themselves. -/
def isHidden (c : Char) : Bool :=
  let unseen := Unicode.Category.other ++ Unicode.Category.separator ++ Unicode.Property.graphemeExtend
  c != ' ' && Unicode.inSpans unseen c

def hexadecimal (n : Nat) : List Char := Nat.toDigits 16 n

/-- Escapes quotes, backslashes and hidden characters. -/
def quoteChar (c : Char) : List Char :=
  match c with
  | '"' => ['\\', '"']
  | '\\' => ['\\', '\\']
  | '\n' => ['\\', 'n']
  | '\r' => ['\\', 'r']
  | '\t' => ['\\', 't']
  | '\x00' => ['\\', '0']
  | c => if isHidden c then ['\\', 'u', '{'] ++ hexadecimal c.toNat ++ ['}'] else [c]

def quoted (text : String) : String :=
  "\"" ++ String.ofList (text.toList.flatMap quoteChar) ++ "\""

def quotedList (texts : List String) : String :=
  "[" ++ ", ".intercalate (texts.map quoted) ++ "]"

end Routing.Text
