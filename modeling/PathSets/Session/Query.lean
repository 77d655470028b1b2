import Std.Data.HashSet
import PathSets.Build.Expression

/-!
# Questions about sets

What can be asked while sets are built.  A query is a build: it may make sets and use up iterators
on the way to its answer.  What is asked has to be a set; that other values may contain something
too is left out.
-/

namespace PathSets

namespace Glob

/-- The globs of a list that are not in `seen`, each at its first place only. -/
def distinctFrom (seen : Std.HashSet Glob) : List Glob → List Glob
  | [] => []
  | glob :: rest =>
      if seen.contains glob then distinctFrom seen rest
      else glob :: distinctFrom (seen.insert glob) rest

/-- The globs of a list, each at its first place only.  They are found with a hash set of the globs
met so far, so one glob is kept for each source. -/
def distinct (globs : List Glob) : List Glob :=
  distinctFrom ∅ globs

end Glob

/-- A question about sets. -/
inductive Query where
  /-- Give a value a name. -/
  | define (name : String) (value : Expression)
  /-- Does a set hold of a path? -/
  | test (set path : Expression)
  /-- Is a path in a set?  The path is evaluated first. -/
  | contains (set path : Expression)
  /-- Which members of a value does a set hold of? -/
  | sift (set paths : Expression)
  /-- Are two values one and the same? -/
  | same (left right : Expression)
  /-- Is the child of a set this very value? -/
  | sameChild (set : Expression) (child : Child) (other : Expression)
  /-- Are two values equal, and do they have one fingerprint?  What is equal but has no fingerprint
  is a fault. -/
  | compare (left right : Expression)
  /-- Which different globs are there among the members of a value? -/
  | distinct (items : Expression)
deriving Inhabited

/-- The answer to a query. -/
inductive Finding where
  /-- A value, to be described. -/
  | value (value : Value)
  /-- Yes or no. -/
  | truth (holds : Bool)
  /-- The members that were looked for. -/
  | selected (members : List Value)
  /-- Whether two values are equal and, if they are, whether their fingerprints are. -/
  | comparison (equal : Bool) (alike : Option Bool)
  /-- The globs that were looked for. -/
  | globs (globs : List Glob)
deriving Inhabited

variable {audience : Audience}

/-- The glob of the set of one glob. -/
def Build.globOf (value : Value) : Build audience Glob :=
  match value with
  | .pathSet (.single _ glob) => pure glob
  | value => Build.fail (.operationMissing value.kind "glob")

/-- The operation that gives a child of a set. -/
def Child.operation : Child → String
  | .member _ => "sets"
  | .included => "includes"
  | .excluded => "excludes"

/-- The child of a value, or why it does not have that child. -/
def Value.child (value : Value) (child : Child) : Except Fault Value :=
  match value.child? child with
  | some found => .ok found
  | none =>
      match value.kind, child with
      | .union, .member _ => .error .memberMissing
      | kind, child => .error (.operationMissing kind child.operation)

/-- Find the answer to a query. -/
def Query.find (names : Names) : Query → Build audience Finding
  | .define _ value => do return .value (← value.evaluate names)
  | .test set path => do
      let set ← set.evaluateSet names (.operationMissing · "matches")
      let path ← path.evaluate names
      return .truth (← Build.ofExcept (set.test path.subject))
  | .contains set path => do
      let path ← path.evaluate names
      let set ← set.evaluateSet names .notContainer
      return .truth (← Build.ofExcept (set.test path.subject))
  | .sift set paths => do
      let set ← set.evaluateSet names (.operationMissing · "filter")
      let paths ← paths.evaluate names
      return .selected (← Build.siftOf set paths)
  | .same left right => do
      let left ← left.evaluate names
      let right ← right.evaluate names
      return .truth (left.same right)
  | .sameChild set child other => do
      let set ← set.evaluate names
      let found ← Build.ofExcept (set.child child)
      let other ← other.evaluate names
      return .truth (found.same other)
  | .compare left right => do
      let left ← left.evaluate names
      let right ← right.evaluate names
      if left.equal right then
        let first ← Build.ofExcept left.fingerprint
        let second ← Build.ofExcept right.fingerprint
        return .comparison true (some (first == second))
      else return .comparison false none
  | .distinct items => do
      let globs ← Build.visit (← items.evaluate names) fun _ item => Build.globOf item
      return .globs (Glob.distinct globs)

end PathSets
