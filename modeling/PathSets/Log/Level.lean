/-!
# Levels

The four named levels of the log, and their places on the scale of integers on which channels are
set.
-/

namespace PathSets

/-- A named level. -/
inductive Level where
  | debug
  | info
  | warning
  | error
deriving DecidableEq, Repr, Inhabited

namespace Level

/-- All levels, from the least severe one. -/
def all : List Level := [.debug, .info, .warning, .error]

/-- The name of a level. -/
def name : Level → String
  | .debug => "DEBUG"
  | .info => "INFO"
  | .warning => "WARNING"
  | .error => "ERROR"

/-- The place of a level on the scale. -/
def rank : Level → Int
  | .debug => 10
  | .info => 20
  | .warning => 30
  | .error => 40

/-- The level of a name. -/
def ofName? (name : String) : Option Level :=
  all.find? (·.name = name)

@[simp] theorem ofName?_name (level : Level) : ofName? level.name = some level := by
  cases level <;> rfl

end Level
end PathSets
