import Routing.Config
import Routing.Route

/-! Route tables: routers written down as data. -/
namespace Routing

structure RouteEntry where
  path : String
  methods : List String := ["GET"]
  name : Option String := none
  defaults : Values := {}
  /-- Patterns that take the place of those in the path. -/
  patterns : Values := {}
  /-- Whether the configured prefix and suffix are put around the path. -/
  decorated : Bool := false

structure ResourceEntry where
  name : String
  plural : Option String := none
  only : Option (List String) := none
  except : List String := []
  shallow : Bool := false
  idPattern : Option String := none
  /-- Methods of further actions on one of many. -/
  member : Values := {}
  /-- Methods of further actions on the whole. -/
  collection : Values := {}
  parameters : Values := {}
  resources : List ResourceEntry := []

structure RouteTable where
  config : Config := {}
  globals : Values := {}
  routes : List RouteEntry := []
  resources : List ResourceEntry := []

end Routing
