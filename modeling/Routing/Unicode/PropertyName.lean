import Routing.Unicode.Age
import Routing.Unicode.Break
import Routing.Unicode.Category
import Routing.Unicode.Property
import Routing.Unicode.ScriptExtension

/-! Finding a Unicode property by its name, with loose matching of names. The tables are of version
17.0; the scripts that it added have no names here, nor has the version itself. -/
namespace Routing.Unicode

/-- Case, spaces, dashes and underscores do not count in names, nor does `is` before them. -/
def foldName (name : List Char) : String :=
  let hasIs := (name.take 2).map Char.toLower = ['i', 's']
  let folded := ((if hasIs then name.drop 2 else name).filter fun c =>
    c != ' ' && c != '_' && c != '-' && decide (c.toNat < 128)).map Char.toLower
  String.ofList (if hasIs ∧ folded = ['c'] then ['i', 's', 'c'] else folded)

def categorySpans? : String → Option (List Span)
  | "any" => some [⟨0, 0x10FFFF⟩]
  | "ascii" => some [⟨0, 0x7F⟩]
  | "assigned" =>
    some (Category.letter ++ Category.mark ++ Category.number ++ Category.punctuation ++
      Category.symbol ++ Category.separator ++ Category.control ++ Category.format ++
      Category.privateUse)
  | name => Category.ofName? name

/-- A name alone is that of a property, a general category or a script. The names `cf`, `sc` and
`lc` are those of categories. -/
def namedSpans? (name : String) : Option (List Span) :=
  let property := if ["cf", "sc", "lc"].contains name then none else Property.ofName? name
  property <|> categorySpans? name <|> Script.ofName? name

/-- A name and a value. Of the properties with more than two values a pattern can ask for these. -/
def valueSpans? (name value : String) : Option (List Span) :=
  match name with
  | "gc" | "generalcategory" => categorySpans? value
  | "sc" | "script" => Script.ofName? value
  | "scx" | "scriptextensions" => Script.extendedOfName? value
  | "age" => Age.ofName? value
  | "gcb" | "graphemeclusterbreak" => findSpans? Break.graphemeCluster value
  | "wb" | "wordbreak" => findSpans? Break.word value
  | "sb" | "sentencebreak" => findSpans? Break.sentence value
  | _ => none

def cutAt? (mark : List Char) : List Char → Option (List Char × List Char)
  | [] => none
  | c :: rest =>
    if mark.isPrefixOf (c :: rest) then some ([], (c :: rest).drop mark.length)
    else (cutAt? mark rest).map fun (before, after) => (c :: before, after)

def propertySpans? (name : List Char) : Option (List Span) :=
  match cutAt? ['!', '='] name <|> cutAt? [':'] name <|> cutAt? ['='] name with
  | some (name, value) => valueSpans? (foldName name) (foldName value)
  | none => namedSpans? (foldName name)

end Routing.Unicode
