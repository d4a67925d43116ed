import SearchBridge.Text.Basic
/-!
Log lines and the levels that select them.
-/

namespace SearchBridge

namespace Log

inductive Level where
  | warning
  | error
  deriving DecidableEq, Repr

def Level.name : Level → String
  | .warning => "WARNING"
  | .error => "ERROR"

def Level.rank : Level → Nat
  | .warning => 30
  | .error => 40

structure Line where
  level : Level
  text : Text
  deriving DecidableEq, Repr

/-- A line with its level in front. -/
def Line.render (l : Line) : Text := l.level.name ++ " " ++ l.text

/-- The names of thresholds, each with the lowest rank that it lets through. -/
def thresholds : List (String × Nat) := [
  ("CRITICAL", 50), ("FATAL", 50), ("ERROR", 40), ("WARN", 30), ("WARNING", 30), ("INFO", 20),
  ("DEBUG", 10), ("NOTSET", 0)]

def threshold? (name : String) : Option Nat := (thresholds.find? (·.1 = name)).map (·.2)

def select (rank : Nat) (lines : List Line) : List Line := lines.filter (rank ≤ ·.level.rank)

end Log

end SearchBridge
