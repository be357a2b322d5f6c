import Accelerator.Event
import Accelerator.Text.Blank

/-!
# Log settings

The format of log lines and the filter of events, as the environment asks for them.
-/

namespace Accelerator

/-- How log lines are written. -/
inductive LogFormat where
  | text
  | json
deriving DecidableEq, Repr

namespace LogFormat

/-- The name of a format. -/
def name : LogFormat → String
  | text => "Text"
  | json => "Json"

/-- The format that a setting asks for; blanks around it and the case of letters do not matter. -/
def ofSetting? (setting : String) : Option LogFormat :=
  let word := (trimBlanks setting).map Char.toLower
  if word = "text" ∨ word = "compact" then some .text
  else if word = "json" then some .json
  else none

end LogFormat

/-- The variable of the environment that holds the format. -/
def logFormatVariable : String :=
  "BEAMLINE_LOG_FORMAT"

/-- The variable of the environment that holds the filter. -/
def logFilterVariable : String :=
  "RUST_LOG"

/-- Log settings. -/
structure LogConfig where
  format : LogFormat
  /-- The filter that holds if the environment has none. -/
  filter : String
  /-- The format that was asked for, if there is no such format. -/
  rejected : Option String
deriving DecidableEq, Repr

namespace LogConfig

/-- The settings that hold if nothing is asked for. -/
def standard : LogConfig :=
  ⟨.text, "info", none⟩

/-- The settings for a format that is asked for, if any. -/
def ofFormat (setting : Option String) : LogConfig :=
  match setting with
  | none => standard
  | some s =>
    match LogFormat.ofSetting? s with
    | some format => { standard with format }
    | none => { standard with rejected := some s }

/-- The settings with another filter. -/
def withFilter (c : LogConfig) (filter : String) : LogConfig :=
  { c with filter }

/-- What is reported when the log starts. -/
def startEvents (c : LogConfig) : List Event :=
  match c.rejected with
  | none => []
  | some s => [{
      level := .warn
      message := "unknown " ++ logFormatVariable ++ "; using text logs"
      values := [("value", .display s)] }]

end LogConfig

end Accelerator
