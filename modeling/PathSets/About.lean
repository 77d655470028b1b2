import PathSets.Fault
import PathSets.Log.Level
import PathSets.Regex.Basic

/-!
# What the library says about itself
-/

namespace PathSets

/-- A summary of the library for its users. -/
structure Summary where
  /-- The version. -/
  version : String
  /-- The character between the segments of a path. -/
  separator : Char
  /-- The public names, sorted. -/
  names : List String
  /-- The numbers of faults. -/
  codes : List (String × Nat)
  /-- The named levels and their ranks. -/
  levels : List (String × Int)
deriving Repr, Inhabited

/-- The summary of this version. -/
def summary : Summary where
  version := "1.0.0"
  separator := separator
  names :=
    ["Complement", "EMPTY_SET", "EmptySet", "FileGlob", "FileGlobSet", "MatchableSet", "Union",
      "ValidationError", "make", "make_complement", "make_set", "make_union", "translate"]
  codes := (FaultCategory.invalidInput.code?.map fun code => ("INVALID_INPUT", code)).toList
  levels := Level.all.map fun level => (level.name, level.rank)

end PathSets
