/-!
# Log lines

A log line has a level and a text.  It is written with the level in capitals
before the text.
-/

namespace Flotilla

/-- How much a log line matters. -/
inductive Level where
  | debug
  | info
  | warn
  | error
deriving Repr, DecidableEq

/-- The level's name. -/
def Level.name : Level → String
  | .debug => "DEBUG"
  | .info => "INFO"
  | .warn => "WARN"
  | .error => "ERROR"

/-- A line of a log. -/
structure LogLine where
  /-- The level. -/
  level : Level
  /-- The text. -/
  text : String
deriving Repr, DecidableEq

/-- The line as it is written. -/
def LogLine.render (line : LogLine) : String := line.level.name ++ " " ++ line.text

/-- A line of level `DEBUG`. -/
def LogLine.debug (text : String) : LogLine := ⟨.debug, text⟩

/-- A line of level `INFO`. -/
def LogLine.info (text : String) : LogLine := ⟨.info, text⟩

/-- A line of level `WARN`. -/
def LogLine.warn (text : String) : LogLine := ⟨.warn, text⟩

/-- A line of level `ERROR`. -/
def LogLine.error (text : String) : LogLine := ⟨.error, text⟩

end Flotilla
