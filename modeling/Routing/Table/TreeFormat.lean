/-! What typed reading needs to know of a format of trees. -/
namespace Routing

/-- How values of a type are found in a tree. Each reading gives `none` where the tree holds no such
value. Readings of containers take the number of levels that may still be entered, and give the
number that is left inside. -/
structure TreeFormat (ν : Type) where
  text? : ν → Option String
  truth? : ν → Option Bool
  /-- A natural number below the bound on sizes. -/
  size? : ν → Option Nat
  /-- A value that may be absent. -/
  optional? : ν → Option (Option ν)
  list? : Nat → ν → Option (Nat × List ν)
  /-- A container of values by name, with repetitions. -/
  entries? : Nat → ν → Option (Nat × List (String × ν))
  /-- The fields of a record, given the names of all its fields in order. -/
  fields? : List String → Nat → ν → Option (Nat × List (String × ν))

namespace TreeFormat

/-- The fields of a record from named ones: fields of other names are left out, and none may be
repeated. -/
def distinct? {ν : Type} (names : List String) (fields : List (String × ν)) : Option (List (String × ν)) :=
  let known := fields.filter fun (name, _) => names.contains name
  if (known.map Prod.fst).Nodup then some known else none

def field? {ν α : Type} (fields : List (String × ν)) (name : String) (missing : α) (read : ν → Option α) :
    Option α :=
  match fields.lookup name with
  | none => some missing
  | some value => read value

def required? {ν α : Type} (fields : List (String × ν)) (name : String) (read : ν → Option α) : Option α :=
  (fields.lookup name).bind read

end TreeFormat
end Routing
