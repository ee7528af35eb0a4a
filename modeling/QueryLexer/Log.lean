/-
# Log records

What the program notes about its work, each note with a level.
-/

namespace QueryLexer

/-- How important a record is. -/
inductive Level where
  | trace
  | debug
  | error
  deriving DecidableEq

/-- The name of a level. -/
def Level.label : Level → String
  | trace => "TRACE"
  | debug => "DEBUG"
  | error => "ERROR"

/-- A note in the log. -/
structure Record where
  level : Level
  text : String
  deriving DecidableEq

namespace Record

/-- A note about a single token. -/
def trace (text : String) : Record := ⟨.trace, text⟩

/-- A note about a whole step of the work. -/
def debug (text : String) : Record := ⟨.debug, text⟩

/-- A note about a failure that does not show elsewhere. -/
def error (text : String) : Record := ⟨.error, text⟩

/-- A record on one line, its level first. -/
def render (r : Record) : String :=
  r.level.label ++ " " ++ r.text

end Record

end QueryLexer
