import PathSets.Glob.Language
import PathSets.PathSet.Basic

/-!
# The paths of a set

What it means for a path to be in a set, by the languages of its globs, and which sets come to a
glob at all when they are asked about something that is no path.
-/

namespace PathSets
namespace PathSet

variable {ι : Type}

mutual

/-- The paths of a set. -/
def Contains (path : String) : PathSet ι → Prop
  | .empty _ => False
  | .blank _ => False
  | .single _ glob => path ∈ glob
  | .anyOf _ globs => ∃ glob ∈ globs, path ∈ glob
  | .union _ members => AnyContains path members
  | .difference _ included excluded => included.Contains path ∧ ¬excluded.Contains path

/-- The paths of any set of a list. -/
def AnyContains (path : String) : List (PathSet ι) → Prop
  | [] => False
  | set :: rest => set.Contains path ∨ AnyContains path rest

end

instance : Membership String (PathSet ι) where
  mem set path := set.Contains path

mutual

/-- Whether a set looks at what it is asked about. -/
def reaches : PathSet ι → Bool
  | .empty _ => false
  | .blank _ => false
  | .single _ _ => true
  | .anyOf _ globs => !globs.isEmpty
  | .union _ members => anyReaches members
  | .difference _ included _ => included.reaches

/-- Whether some set of a list looks at what it is asked about. -/
def anyReaches : List (PathSet ι) → Bool
  | [] => false
  | set :: rest => set.reaches || anyReaches rest

end

end PathSet
end PathSets
