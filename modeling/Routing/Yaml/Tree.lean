import Routing.Config
import Routing.Table.TreeFormat
import Routing.Yaml.Node

/-! Typed reading of YAML: a scalar has no type of its own, but is read as what is asked for. -/
namespace Routing.Yaml

def isNull (text : String) : Bool := ["null", "Null", "NULL", "~"].contains text

def truth? (text : String) : Option Bool :=
  if ["true", "True", "TRUE"].contains text then some true
  else if ["false", "False", "FALSE"].contains text then some false
  else none

def digits? (base : Nat) (digits : List Char) : Option Nat :=
  if digits.isEmpty then none else digitsValue? base 0 digits

/-- A natural number with or without a plus sign. Bases other than ten are named by two characters;
in base ten a number does not begin with a needless zero. -/
def natural? (text : String) : Option Nat :=
  let digits := match text.toList with
    | '+' :: rest => rest
    | s => s
  match digits with
  | '0' :: 'x' :: rest => digits? 16 rest
  | '0' :: 'o' :: rest => digits? 8 rest
  | '0' :: 'b' :: rest => digits? 2 rest
  | '0' :: _ :: _ => none
  | _ => digits? 10 digits

/-- Whether a scalar may be read as a value of the type with this tag. -/
def Scalar.mayBe (s : Scalar) (type : String) : Bool :=
  s.plain || (s.literal && s.tag == some ("tag:yaml.org,2002:" ++ type))

namespace Document

variable (d : Document)

def scalar? (node : Node) : Option Scalar := do
  match ← d.target? node with
  | .scalar s => some s
  | _ => none

def text? (node : Node) : Option String := (d.scalar? node).map (·.text)

def optional? (node : Node) : Option (Option Node) := do
  match ← d.target? node with
  | .scalar s =>
    if !s.plain then return some node
    else
      match s.tag with
      | none => return if s.text.isEmpty || isNull s.text then none else some node
      | some "tag:yaml.org,2002:null" => if isNull s.text then return none else failure
      | some _ => return some node
  | _ => return some node

/-- Enters a container if levels are left. An empty plain scalar is an empty container. -/
def enter? {α : Type} (levels : Nat) (contents : Node → Option (List α)) (node : Node) :
    Option (Nat × List α) := do
  match ← d.target? node with
  | .scalar s => if s.plain && s.text.isEmpty then some (levels, []) else none
  | container => if levels = 0 then none else (contents container).map (levels - 1, ·)

def members? : Node → Option (List (String × Node))
  | .mapping members => members.mapM fun (key, value) => (d.text? key).map (·, value)
  | _ => none

def format : TreeFormat Node where
  text? := d.text?
  truth? node := do
    let s ← d.scalar? node
    if s.mayBe "bool" then truth? s.text else none
  size? node := do
    let s ← d.scalar? node
    let n ← if s.mayBe "int" then natural? s.text else none
    if n < Config.sizeBound then some n else none
  optional? := d.optional?
  list? levels := d.enter? levels fun
    | .sequence items => some items
    | _ => none
  entries? levels := d.enter? levels d.members?
  fields? names levels := d.enter? levels fun node => do TreeFormat.distinct? names (← d.members? node)

end Document

def Document.parse? (text : String) : Option Document :=
  (tokens? text.toList).bind Document.ofTokens?

end Routing.Yaml
