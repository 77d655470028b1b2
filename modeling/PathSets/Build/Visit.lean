import PathSets.Build.Basic
import PathSets.Value.Sets

/-!
# Going through the members of a value

The members of a value are taken one at a time, and something is done with each before the next is
taken.  A one-shot iterator therefore keeps exactly the members behind the last one that was
looked at, also when what was done with that one failed.

The public name of `Build.sift` and `Build.siftOf` is `filter`.
-/

namespace PathSets
namespace Build

variable {audience : Audience} {β : Type}

/-- Do something with each of the members of a list, counted from `index`; before that, `release`
is told which members are left behind it. -/
def visitList (release : List Value → Build audience Unit) (act : Nat → Value → Build audience β) :
    Nat → List Value → Build audience (List β)
  | _, [] => pure []
  | index, item :: rest => do
      release rest
      let first ← act index item
      let others ← visitList release act (index + 1) rest
      return first :: others

/-- Do something with each of so many integers from `number` on, made for the value of a tag and
counted from `number` too. -/
def visitFrom (tag : Tag) (act : Nat → Value → Build audience β) (number : Nat) :
    Nat → Build audience (List β)
  | 0 => pure []
  | left + 1 => do
      let first ← act number (.counted tag number)
      let others ← visitFrom tag act (number + 1) left
      return first :: others

theorem visitFrom_eq_visitList (tag : Tag) (act : Nat → Value → Build audience β)
    (number left : Nat) :
    visitFrom tag act number left =
      visitList (fun _ => pure ()) act number
        ((List.range' number left).map (Value.counted tag)) := by
  induction left generalizing number with
  | zero => rfl
  | succ left ih => simp only [visitFrom, ih, List.range'_succ, List.map_cons, visitList, pure_bind]

/-- Do something with each member of a value and collect the results. -/
def visit (value : Value) (act : Nat → Value → Build audience β) : Build audience (List β) :=
  match value.members with
  | .absent => fail (.notIterable value.kind)
  | .fixed items => visitList (fun _ => pure ()) act 0 items
  | .below tag bound => visitFrom tag act 0 bound
  | .oneShot iterator => do visitList (leave iterator) act 0 (← remaining iterator)

/-- All members of a value; an iterator has none left afterwards. -/
def membersOf (value : Value) : Build audience (List Value) :=
  match value.members with
  | .absent => fail (.notIterable value.kind)
  | .fixed items => pure items
  | .below tag bound => pure ((List.range bound).map (Value.counted tag))
  | .oneShot iterator => do
      let items ← remaining iterator
      leave iterator []
      return items

/-- What a test says of one member of a value. -/
def testMember (test : Subject → Except Fault Bool) (_ : Nat) (path : Value) :
    Build audience (Value × Bool) := do
  return (path, ← ofExcept (test path.subject))

/-- The members that a test was found to hold of. -/
def held (verdicts : List (Value × Bool)) : List Value :=
  (verdicts.filter (·.2)).map (·.1)

theorem held_map (member : Nat → Value) (holds : Bool) (numbers : List Nat) :
    held (numbers.map fun number => (member number, holds)) =
      if holds then numbers.map member else [] := by
  induction numbers with
  | nil => simp [held]
  | cons number rest ih => cases holds <;> simp_all [held]

/-- The integers below a bound that a test holds of, made for the value of a tag.  All integers are
the same to a test, so the first of them decides. -/
def siftBelow (test : Subject → Except Fault Bool) (tag : Tag) (bound : Nat) :
    Build audience (List Value) :=
  if bound = 0 then pure []
  else do
    if ← ofExcept (test (.foreign .int)) then
      return (List.range bound).map (Value.counted tag)
    else return []

theorem visitFrom_testMember {test : Subject → Except Fault Bool} {holds : Bool}
    (tested : test (.foreign .int) = .ok holds) (tag : Tag) (number left : Nat) :
    visitFrom tag (testMember test) number left =
      (pure ((List.range' number left).map fun number => (Value.counted tag number, holds)) :
        Build audience _) := by
  have member (number : Nat) :
      testMember test number (.counted tag number) =
        (pure (Value.counted tag number, holds) : Build audience _) := by
    unfold testMember
    rw [show (Value.counted tag number).subject = .foreign .int from rfl, tested]
    rfl
  induction left generalizing number with
  | zero => rfl
  | succ left ih => simp [visitFrom, member, ih, List.range'_succ]

/-- Deciding all integers by the first gives what deciding each of them gives. -/
theorem siftBelow_eq_visitFrom (test : Subject → Except Fault Bool) (tag : Tag) (bound : Nat) :
    (siftBelow test tag bound : Build audience _) = do
      return held (← visitFrom tag (testMember test) 0 bound) := by
  cases bound with
  | zero => rfl
  | succ bound =>
    cases tested : test (.foreign .int) with
    | error fault =>
      simp only [siftBelow, tested, visitFrom, testMember, Nat.add_one_ne_zero, if_false]
      rw [show (Value.counted tag 0).subject = .foreign .int from rfl, tested]
      rfl
    | ok holds =>
      rw [visitFrom_testMember tested, pure_bind, held_map]
      have decided : ofExcept (.ok holds) = (pure holds : Build audience Bool) := rfl
      cases holds <;> simp [siftBelow, tested, decided, List.range_eq_range']

/-- The members of a value that a test holds of, in order. -/
def siftBy (test : Subject → Except Fault Bool) (paths : Value) : Build audience (List Value) :=
  match paths.members with
  | .below tag bound => siftBelow test tag bound
  | _ => do return held (← visit paths (testMember test))

theorem siftBy_eq_visit (test : Subject → Except Fault Bool) (paths : Value) :
    (siftBy test paths : Build audience _) = do
      return held (← visit paths (testMember test)) := by
  unfold siftBy visit
  cases paths.members with
  | below tag bound => exact siftBelow_eq_visitFrom test tag bound
  | absent | fixed | oneShot => rfl

/-- The members of a value that a set of paths holds of, in order.  The empty set does not look at
the value. -/
def sift (set : PathSet Tag) (paths : Value) : Build audience (List Value) :=
  match set with
  | .empty _ => pure []
  | set => siftBy set.test paths

/-- The members of a value that a set holds of, in order, whatever the set is made of. -/
def siftOf (set paths : Value) : Build audience (List Value) :=
  match set with
  | .pathSet set => sift set paths
  | set => siftBy set.test paths

end Build
end PathSets
