import PathSets.Value.Basic

/-!
# Values as sets

A union can be made of any values, and so can a difference.  If they all are sets of paths, so is
what is made of them.  Otherwise it still is one for whoever makes a set of it, but asking it comes
to a fault as soon as the search comes to a value that cannot be asked.
-/

namespace PathSets
namespace Value

/-- The set of paths that a value is, if it is one. -/
def pathSet? : Value → Option (PathSet Tag)
  | .pathSet paths => some paths
  | _ => none

/-- Whether a value is a set, whatever it is made of. -/
def isSet : Value → Bool
  | .pathSet _ | .looseUnion _ _ | .looseDifference _ _ _ => true
  | _ => false

/-- The union of values. -/
def unionOf (tag : Tag) (members : List Value) : Value :=
  match members.mapM pathSet? with
  | some sets => .pathSet (.union tag sets)
  | none => .looseUnion tag members

/-- The difference of two values. -/
def differenceOf (tag : Tag) (included excluded : Value) : Value :=
  match included.pathSet?, excluded.pathSet? with
  | some first, some second => .pathSet (.difference tag first second)
  | _, _ => .looseDifference tag included excluded

/-- The child of a set, if it has that child. -/
def child? : Value → Child → Option Value
  | .pathSet paths, child => (paths.child? child).map .pathSet
  | .looseUnion _ members, .member index => memberAt? members index
  | .looseDifference _ included _, .included => some included
  | .looseDifference _ _ excluded, .excluded => some excluded
  | _, _ => none

mutual

/-- Decide a subject against a value. -/
def test (subject : Subject) : Value → Except Fault Bool
  | .pathSet paths => paths.test subject
  | .looseUnion _ members => testAny subject members
  | .looseDifference _ included excluded => do
      if ← included.test subject then return !(← excluded.test subject) else return false
  | value => .error (.operationMissing value.kind "matches")

/-- Decide a subject against the values of a list, up to the first that holds. -/
def testAny (subject : Subject) : List Value → Except Fault Bool
  | [] => .ok false
  | value :: rest => do if ← value.test subject then return true else testAny subject rest

end

end Value
end PathSets
