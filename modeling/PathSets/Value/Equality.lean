import PathSets.Fault
import PathSets.Value.Basic

/-!
# Equal values

Data are equal by what they hold, lists and tuples by their members in order, sets and dictionaries
by their members in any order, globs by their source, and everything else by identity.  A member
also counts as equal to itself where it is not equal to itself as a value.

That values of other kinds may have an equality of their own is left out: they are equal to nothing
but themselves.

Equal values have equal fingerprints.  What can be changed has none, and neither has a tuple with
such a member; these cannot be members of sets or keys of dictionaries.
-/

namespace PathSets
namespace Value

mutual

/-- Whether two values are equal. -/
def equal : Value → Value → Bool
  | .datum _ left, .datum _ right => left.equal right
  | .list _ left, .list _ right => equalAll left right
  | .tuple _ left, .tuple _ right => equalAll left right
  | .set _ left, .set _ right => left.length == right.length && allAmong left right
  | .dict _ left, .dict _ right => left.length == right.length && entriesAmong left right
  | .iterator left, .iterator right => left == right
  | .object left _ _, .object right _ _ => left == right
  | .collection left _ _ _, .collection right _ _ _ => left == right
  | .pathSet left, .pathSet right => left.equal right
  | .looseUnion left _, .looseUnion right _ => left == right
  | .looseDifference left _ _, .looseDifference right _ _ => left == right
  | _, _ => false
termination_by structural left => left

/-- Whether two lists have equal members in the same order. -/
def equalAll : List Value → List Value → Bool
  | [], [] => true
  | left :: lefts, right :: rights =>
      (left.same right || left.equal right) && equalAll lefts rights
  | _, _ => false
termination_by structural lefts => lefts

/-- Whether all members of one list are among those of another. -/
def allAmong : List Value → List Value → Bool
  | [], _ => true
  | item :: rest, others =>
      others.any (fun other => item.same other || item.equal other) && allAmong rest others
termination_by structural items => items

/-- Whether all entries of one dictionary are among those of another. -/
def entriesAmong : List (Value × Value) → List (Value × Value) → Bool
  | [], _ => true
  | (key, value) :: rest, others =>
      others.any (fun other =>
        (key.same other.1 || key.equal other.1) && (value.same other.2 || value.equal other.2))
        && entriesAmong rest others
termination_by structural entries => entries

end

/-- Whether two members count as equal. -/
def alike (left right : Value) : Bool :=
  left.same right || left.equal right

mutual

/-- A number that equal values share. -/
def fingerprint : Value → Except Fault UInt64
  | .datum _ (.byteArray _) => .error (.unhashable .byteArray)
  | .datum _ held => .ok (hash held.essence)
  | .tuple _ items => fingerprintAll items
  | .iterator tag => .ok (hash tag)
  | .object tag _ _ | .collection tag _ _ _ | .looseUnion tag _ | .looseDifference tag _ _ =>
      .ok (hash tag)
  | .pathSet (.single _ glob) => .ok (hash glob)
  | .pathSet paths => .ok (hash paths.tag)
  | .list _ _ => .error (.unhashable .list)
  | .set _ _ => .error (.unhashable .set)
  | .dict _ _ => .error (.unhashable .dict)

/-- A number that equal lists share. -/
def fingerprintAll : List Value → Except Fault UInt64
  | [] => .ok 0
  | value :: rest => do return mixHash (← value.fingerprint) (← fingerprintAll rest)

end

end Value
end PathSets
