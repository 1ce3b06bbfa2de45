/-! The switches that change how the rest of a group is read. -/
namespace Routing.Pattern

structure Flags where
  ignoreCase : Bool := false
  multiLine : Bool := false
  /-- Whether a dot matches line feeds too. -/
  dotAll : Bool := false
  /-- Whether repetitions are lazy, and greedy after a question mark. -/
  swapGreed : Bool := false
  unicode : Bool := true
  /-- Whether a carriage return ends a line, too. -/
  anyLineEnd : Bool := false
  /-- Whether blanks, and comments from a number sign on, are skipped. -/
  verbose : Bool := false
deriving DecidableEq, Repr

namespace Flags

def set? (flags : Flags) (letter : Char) (on : Bool) : Option Flags :=
  match letter with
  | 'i' => some { flags with ignoreCase := on }
  | 'm' => some { flags with multiLine := on }
  | 's' => some { flags with dotAll := on }
  | 'U' => some { flags with swapGreed := on }
  | 'u' => some { flags with unicode := on }
  | 'R' => some { flags with anyLineEnd := on }
  | 'x' => some { flags with verbose := on }
  | _ => none

end Flags
end Routing.Pattern
