import Accelerator.Json.Writing
import Accelerator.Logging.Config

/-!
# Log lines

Which events a filter shows, and how a shown event is written in a line. The time and the colours
that a terminal may show beside it are no part of a line.
-/

namespace Accelerator

/-- The events that are shown: none, or those of a level and above. -/
inductive LogFilter where
  | off
  | above (level : Level)
deriving DecidableEq, Repr

namespace LogFilter

/-- The filter that a setting asks for: the name or the number of a level in any case, or nothing
for errors alone. A setting of another form names events that are not among these. -/
def ofSetting (setting : String) : LogFilter :=
  match (setting.map Char.toLower : String) with
  | "" | "error" | "1" => .above .error
  | "warn" | "2" => .above .warn
  | "info" | "3" => .above .info
  | "debug" | "4" => .above .debug
  | "trace" | "5" => .above .trace
  | _ => .off

/-- The filter shows an event. -/
def shows (f : LogFilter) (e : Event) : Bool :=
  match f with
  | .off => false
  | .above level => level.rank ≤ e.level.rank

end LogFilter

namespace Event

/-- A value as it stands in a line of text. -/
def valueText : EventValue → String
  | .string s => literal s
  | v => v.text

/-- The event as a line of text; the level has five columns. -/
def textLine (e : Event) : String :=
  "".pushn ' ' (5 - e.level.name.length) ++ e.level.name ++ " " ++ e.message ++
    String.join (e.values.map fun (name, v) => " " ++ name ++ "=" ++ valueText v)

/-- A value as it stands in a line of JSON. -/
def valueJson : EventValue → List Char
  | .number n => intText n
  | v => Json.stringText v.text

/-- The event as a line of JSON. -/
def jsonLine (e : Event) : String :=
  let values := e.values.map fun (name, v) => Json.memberText name (valueJson v)
  let fields := Json.objectText (Json.memberText "message" (Json.stringText e.message) :: values)
  String.ofList (Json.objectText
    [Json.memberText "level" (Json.stringText e.level.name), Json.memberText "fields" fields])

/-- The event as a line of a format. -/
def line (format : LogFormat) (e : Event) : String :=
  match format with
  | .text => e.textLine
  | .json => e.jsonLine

end Event

/-- The lines of the events that a filter shows. -/
def logLines (format : LogFormat) (filter : LogFilter) (events : List Event) : List String :=
  (events.filter filter.shows).map (·.line format)

end Accelerator
