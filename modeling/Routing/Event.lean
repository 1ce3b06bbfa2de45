/-! Log events: what the library reports while it works, as values. -/
namespace Routing

inductive EventLevel
  | info
  | debug
deriving DecidableEq, Repr

def EventLevel.name : EventLevel → String
  | info => "INFO"
  | debug => "DEBUG"

inductive EventValue
  | text (s : String)
  | number (n : Nat)
  | flag (b : Bool)
deriving DecidableEq, Repr

structure Event where
  level : EventLevel
  message : String
  fields : List (String × EventValue)
deriving DecidableEq, Repr

end Routing
