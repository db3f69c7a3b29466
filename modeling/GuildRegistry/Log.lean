import GuildRegistry.Json.Value

/-! Structured log lines.

A line has a level, a message and named fields. An error in a field is shown by its
name and message only, so a log line never depends on where an error came from.
-/

set_option autoImplicit false

namespace GuildRegistry

/-- How serious a log line is. -/
inductive LogLevel where
  | debug
  | info
  | warn
  | error
  deriving DecidableEq, Repr, Inhabited

def LogLevel.text : LogLevel → String
  | .debug => "debug"
  | .info => "info"
  | .warn => "warn"
  | .error => "error"

/-- One log line. -/
structure LogLine where
  level : LogLevel
  message : String
  fields : List (String × Json)
  deriving Repr, Inhabited

namespace LogLine

/-- The field that shows an error: its name and its message. -/
def errorField (name message : String) : String × Json :=
  ("err", .obj [("name", .str name), ("message", .str message)])

/-- The line without its error field. -/
def withoutError (l : LogLine) : LogLine := { l with fields := l.fields.filter (·.1 != "err") }

def toJson (l : LogLine) : Json := .arr [.str l.level.text, .str l.message, .obj l.fields]

end LogLine

end GuildRegistry
