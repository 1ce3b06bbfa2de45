import Routing.Json.Tree
import Routing.Table.Entry
import Routing.Yaml.Tree

/-! Reading route tables from trees of any format. -/
namespace Routing

namespace TreeFormat

variable {ν : Type} (format : TreeFormat ν)

/-- Strings by key; the last one of a key counts. -/
def values? (levels : Nat) (tree : ν) : Option Values := do
  let (_, entries) ← format.entries? levels tree
  let pairs ← entries.mapM fun (key, value) => (format.text? value).map (key, ·)
  return pairs.foldl (fun values (key, value) => values.insert key value) {}

def texts? (levels : Nat) (tree : ν) : Option (List String) := do
  let (_, items) ← format.list? levels tree
  items.mapM format.text?

def maybe? {α : Type} (read : ν → Option α) (tree : ν) : Option (Option α) := do
  match ← format.optional? tree with
  | none => return none
  | some tree => return some (← read tree)

def config? (levels : Nat) (tree : ν) : Option Config := do
  let (_, fields) ← format.fields?
    ["prefix", "suffix", "default_pattern", "chunk_size", "short_urls"] levels tree
  return {
    pathPrefix := ← field? fields "prefix" "" format.text?
    pathSuffix := ← field? fields "suffix" "" format.text?
    defaultPattern := ← field? fields "default_pattern" ({} : Config).defaultPattern format.text?
    chunkSize := ← field? fields "chunk_size" ({} : Config).chunkSize format.size?
    shortUrls := ← field? fields "short_urls" true format.truth? }

def route? (levels : Nat) (tree : ν) : Option RouteEntry := do
  let (levels, fields) ← format.fields?
    ["path", "methods", "name", "defaults", "patterns", "decorated"] levels tree
  return {
    path := ← required? fields "path" format.text?
    methods := ← field? fields "methods" ["GET"] (format.texts? levels)
    name := ← field? fields "name" none (format.maybe? format.text?)
    defaults := ← field? fields "defaults" {} (format.values? levels)
    patterns := ← field? fields "patterns" {} (format.values? levels)
    decorated := ← field? fields "decorated" false format.truth? }

/-- Reads a resource and those nested in it. The fuel bounds the depth of nesting. -/
def resource? : Nat → Nat → ν → Option ResourceEntry
  | 0, _, _ => none
  | fuel + 1, levels, tree => do
    let (levels, fields) ← format.fields?
      ["name", "plural", "only", "except", "shallow", "id_pattern", "member", "collection",
        "parameters", "resources"] levels tree
    return {
      name := ← required? fields "name" format.text?
      plural := ← field? fields "plural" none (format.maybe? format.text?)
      only := ← field? fields "only" none (format.maybe? (format.texts? levels))
      except := ← field? fields "except" [] (format.texts? levels)
      shallow := ← field? fields "shallow" false format.truth?
      idPattern := ← field? fields "id_pattern" none (format.maybe? format.text?)
      member := ← field? fields "member" {} (format.values? levels)
      collection := ← field? fields "collection" {} (format.values? levels)
      parameters := ← field? fields "parameters" {} (format.values? levels)
      resources := ← field? fields "resources" [] fun tree => do
        let (levels, items) ← format.list? levels tree
        items.mapM (resource? fuel levels) }

def routeTable? (levels : Nat) (tree : ν) : Option RouteTable := do
  let (levels, fields) ← format.fields? ["config", "global_values", "routes", "resources"] levels tree
  return {
    config := ← field? fields "config" {} (format.config? levels)
    globals := ← field? fields "global_values" {} (format.values? levels)
    routes := ← field? fields "routes" [] fun tree => do
      let (levels, items) ← format.list? levels tree
      items.mapM (format.route? levels)
    resources := ← field? fields "resources" [] fun tree => do
      let (levels, items) ← format.list? levels tree
      items.mapM (format.resource? levels levels) }

end TreeFormat

namespace RouteTable

/-- How deep typed containers may be nested. -/
def levels : Nat := 128

def ofJson? (text : String) : Option RouteTable :=
  (Json.parse? text).bind (Json.format.routeTable? levels)

def ofYaml? (text : String) : Option RouteTable :=
  (Yaml.Document.parse? text).bind fun d => d.format.routeTable? levels d.root

end RouteTable
end Routing
