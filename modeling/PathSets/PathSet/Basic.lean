import PathSets.Fault
import PathSets.Glob.Basic

/-!
# Sets of paths

A path set is a tree with globs at its leaves.  Every node carries a tag, which tells two sets of
one structure apart; with tags of a type that has a single value, a path set is nothing but its
structure.

A set is asked about a `Subject`, which need not be a text.  Only a glob looks at the subject, so
a subject that is no text is a fault exactly when the search for an answer comes to a glob.

The public name of `PathSet.test` is `matches`, and being in a set is the same.  The kinds of sets
are those of the library; sets with a test of their own, which callers may add, are left out.
-/

namespace PathSets

/-- What is offered to a set as a path. -/
inductive Subject where
  /-- A path. -/
  | text (path : String)
  /-- Bytes, which are no path. -/
  | binary
  /-- A value of another kind, which is no path either. -/
  | foreign (kind : Kind)
deriving DecidableEq, Repr, Inhabited

/-- A set of paths, with a tag of type `ι` on every node. -/
inductive PathSet (ι : Type) where
  /-- The set without paths. -/
  | empty (tag : ι)
  /-- A set without paths that nothing is known about. -/
  | blank (tag : ι)
  /-- The paths of one glob. -/
  | single (tag : ι) (glob : Glob)
  /-- The paths of any glob of a list. -/
  | anyOf (tag : ι) (globs : List Glob)
  /-- The paths of any set of a list. -/
  | union (tag : ι) (members : List (PathSet ι))
  /-- The paths of the first set that are not in the second. -/
  | difference (tag : ι) (included excluded : PathSet ι)
deriving Inhabited

/-- A child of a set. -/
inductive Child where
  /-- The member of a union at an index, counted from the end if it is negative. -/
  | member (index : Int)
  /-- The set that a difference takes paths from. -/
  | included
  /-- The set that a difference takes away. -/
  | excluded
deriving DecidableEq, Repr, Inhabited

/-- The member of a list at an index, counted from the end if it is negative. -/
def memberAt? {α : Type} (members : List α) (index : Int) : Option α :=
  if 0 ≤ index then members[index.toNat]?
  else if 0 ≤ members.length + index then members[(members.length + index).toNat]? else none

/-- Decide a subject against a glob. -/
def Glob.test (glob : Glob) : Subject → Except Fault Bool
  | .text path => .ok (glob.accepts path)
  | .binary => .error .pathBinary
  | .foreign kind => .error (.pathNotText kind)

/-- Decide a subject against the globs of a list, up to the first that holds. -/
def Glob.testAny (subject : Subject) : List Glob → Except Fault Bool
  | [] => .ok false
  | glob :: rest => do if ← glob.test subject then return true else testAny subject rest

namespace PathSet

variable {ι : Type}

/-- The tag of the topmost node. -/
def tag : PathSet ι → ι
  | .empty tag | .blank tag | .single tag _ | .anyOf tag _ | .union tag _ | .difference tag _ _ =>
      tag

/-- The kind of a set as a value. -/
def kind : PathSet ι → Kind
  | .empty _ => .emptySet
  | .blank _ => .blankSet
  | .single _ _ => .glob
  | .anyOf _ _ => .globSet
  | .union _ _ => .union
  | .difference _ _ _ => .difference

/-- Whether a set counts as true; only the empty set does not. -/
def truth : PathSet ι → Bool
  | .empty _ => false
  | _ => true

mutual

/-- The structure of a set: the same tree without tags. -/
def shape : PathSet ι → PathSet Unit
  | .empty _ => .empty ()
  | .blank _ => .blank ()
  | .single _ glob => .single () glob
  | .anyOf _ globs => .anyOf () globs
  | .union _ members => .union () (shapes members)
  | .difference _ included excluded => .difference () included.shape excluded.shape

/-- The structures of the sets of a list. -/
def shapes : List (PathSet ι) → List (PathSet Unit)
  | [] => []
  | set :: rest => set.shape :: shapes rest

end

mutual

/-- Decide a subject against a set.  A union stops at the first member that holds, and a difference
asks its second set only about what its first one holds of. -/
def test (subject : Subject) : PathSet ι → Except Fault Bool
  | .empty _ => .ok false
  | .blank _ => .ok false
  | .single _ glob => glob.test subject
  | .anyOf _ globs => Glob.testAny subject globs
  | .union _ members => testAny subject members
  | .difference _ included excluded => do
      if ← included.test subject then return !(← excluded.test subject) else return false

/-- Decide a subject against the sets of a list, up to the first that holds. -/
def testAny (subject : Subject) : List (PathSet ι) → Except Fault Bool
  | [] => .ok false
  | set :: rest => do if ← set.test subject then return true else testAny subject rest

end

/-- The child of a set, if it has that child. -/
def child? : PathSet ι → Child → Option (PathSet ι)
  | .union _ members, .member index => memberAt? members index
  | .difference _ included _, .included => some included
  | .difference _ _ excluded, .excluded => some excluded
  | _, _ => none

/-- Whether two sets are equal: globs by their source, all other sets by being the same set. -/
def equal [DecidableEq ι] : PathSet ι → PathSet ι → Bool
  | .single _ left, .single _ right => left == right
  | left, right => left.tag == right.tag

end PathSet
end PathSets
