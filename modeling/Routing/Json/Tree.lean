import Routing.Json.Value
import Routing.Table.TreeFormat

/-! Typed reading of JSON: values have the type that is asked for, and records may be arrays. -/
namespace Routing.Json

/-- Enters a container if levels are left; the last one may not be entered. -/
def enter {α : Type} (levels : Nat) (contents : α) : Option (Nat × α) :=
  if levels ≤ 1 then none else some (levels - 1, contents)

/-- The members of an object by name; every name must be a whole text. -/
def named? (members : List (Option String × Json)) : Option (List (String × Json)) :=
  members.mapM fun (name, value) => name.map (·, value)

def format : TreeFormat Json where
  text?
    | string text? => text?
    | _ => none
  truth?
    | truth b => some b
    | _ => none
  size?
    | number natural? => natural?
    | _ => none
  optional?
    | null => some none
    | value => some (some value)
  list? levels
    | array items => enter levels items
    | _ => none
  entries? levels
    | object members => do enter levels (← named? members)
    | _ => none
  fields? names levels
    | object members => do enter levels (← TreeFormat.distinct? names (← named? members))
    | array items => if names.length < items.length then none else enter levels (names.zip items)
    | _ => none

end Routing.Json
