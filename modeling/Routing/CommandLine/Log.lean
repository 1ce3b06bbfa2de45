import Routing.Event
import Routing.Json.Quoted
import Routing.LogSettings

/-! The log of the command line: a line for each event that the settings let through. -/
namespace Routing

def LogLevel.admits : LogLevel → EventLevel → Bool
  | trace, _ | debug, _ | info, .info => true
  | info, .debug | warn, _ | error, _ => false

namespace Event

def valueText : EventValue → String
  | .text s => s
  | .number n => toString n
  | .flag b => if b then "true" else "false"

/-- As JSON, only texts are quoted. -/
def valueJson : EventValue → String
  | .text s => Json.quote s
  | value => valueText value

def line (format : LogFormat) (e : Event) : String :=
  match format with
  | .pretty =>
    " ".intercalate ([e.level.name, e.message] ++
      e.fields.map fun (key, value) => key ++ "=" ++ valueText value)
  | .json =>
    let members := ("level", Json.quote e.level.name) :: ("message", Json.quote e.message) ::
      e.fields.map fun (key, value) => (key, valueJson value)
    "\x7b" ++ ",".intercalate (members.map fun (key, value) => Json.quote key ++ ":" ++ value) ++ "\x7d"

end Event

def LogSettings.lines (settings : LogSettings) (events : List Event) : List String :=
  (events.filter fun e => settings.level.admits e.level).map (Event.line settings.format)

end Routing
