/-!
# Logging

A logged computation writes records as it goes. A record is written when its
severity reaches the threshold in force; whether it is has no influence on the
result, and the records written before a failure are kept.
-/

namespace Clausal

/-- How severe a record is. -/
inductive Severity where
  | debug
  | info
  deriving DecidableEq

namespace Severity

def rank : Severity → Int
  | .debug => 10
  | .info => 20

def label : Severity → String
  | .debug => "DEBUG"
  | .info => "INFO"

end Severity

/-- A line of a log. -/
structure LogRecord where
  severity : Severity
  message : String
  deriving DecidableEq

/-- A logger with a level of its own and the level of its parent. -/
structure Logger where
  level : Int
  parent : Int
  deriving DecidableEq

namespace Logger

/-- The threshold that a logger applies. At level zero it is that of the
parent. -/
def effective (l : Logger) : Int := if l.level = 0 then l.parent else l.level

/-- The level from which on records are warnings. -/
def warning : Int := 30

/-- A logger that shows warnings only. -/
def initial : Logger := ⟨warning, warning⟩

end Logger

/-- A computation that may fail and that writes to a log above a threshold. -/
abbrev Logged (ε α : Type) := ReaderT Int (ExceptT ε (StateM (List LogRecord))) α

namespace Logged

variable {ε α : Type}

/-- Writes a record if its severity reaches the threshold. -/
def note (severity : Severity) (message : String) : Logged ε Unit := fun threshold =>
  if threshold ≤ severity.rank then
    modify (· ++ [⟨severity, message⟩])
  else pure ()

/-- A step that may fail and writes nothing. -/
def ofExcept (step : Except ε α) : Logged ε α := fun _ => ExceptT.mk (pure step)

/-- The outcome of a computation under a threshold, with what it wrote. -/
def runWith (m : Logged ε α) (threshold : Int) : Except ε α × List LogRecord :=
  ((m.run threshold).run).run []

end Logged

end Clausal
