/-
# Log lines

What the library tells an operator on the way.  A function that logs returns its lines in order;
no decision depends on them.
-/

namespace TokenTrust

/-- How much a line matters. -/
inductive Level where
  | debug
  | warn
  deriving DecidableEq, Repr

/-- The name of a level. -/
def Level.name : Level → String
  | .debug => "DEBUG"
  | .warn => "WARN"

structure LogLine where
  level : Level
  message : String
  deriving DecidableEq, Repr

namespace LogLine

def debug (message : String) : LogLine := ⟨.debug, message⟩

def warn (message : String) : LogLine := ⟨.warn, message⟩

/-- A line with its level in front. -/
def text (l : LogLine) : String := l.level.name ++ " " ++ l.message

end LogLine
end TokenTrust
