import RideQuestions.Text.Case

/-! Levels of log records. A level is a number, and the usual ones have names.
-/

namespace RideQuestions.Logging

namespace Level

/-- The level of a logger that leaves its level to the logger above it. -/
def unset : Int := 0

def info : Int := 20

def warning : Int := 30

/-- The levels by name; of two names of one level the first is shown. -/
def names : List (String × Int) :=
  [
    ("CRITICAL", 50), ("FATAL", 50), ("ERROR", 40), ("WARNING", warning), ("WARN", warning),
    ("INFO", info), ("DEBUG", 10), ("NOTSET", unset)
  ]

/-- The level that a name in any letter case stands for. -/
def ofName? (name : String) : Option Int :=
  names.lookup (Text.plainUpper name)

/-- The name of a level; one without a name is shown by its number. -/
def name (level : Int) : String :=
  match names.find? (·.2 = level) with
  | some (name, _) => name
  | none => "Level " ++ toString level

end Level

end RideQuestions.Logging
