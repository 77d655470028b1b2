import PathSets.PathSet.Basic
import PathSets.Value.Datum

/-!
# Values

The values that sets are built from, asked about and logged with.  A value bears a tag, which tells
it apart from values of the same content that were made on another occasion.  The members that an
iterator has left are no part of it.
-/

namespace PathSets

/-- What tells values apart that were made on different occasions. -/
abbrev Tag := Nat

/-- A value. -/
inductive Value where
  | datum (tag : Tag) (datum : Datum)
  | list (tag : Tag) (items : List Value)
  | tuple (tag : Tag) (items : List Value)
  | set (tag : Tag) (items : List Value)
  | dict (tag : Tag) (entries : List (Value × Value))
  /-- A one-shot iterator. -/
  | iterator (tag : Tag)
  /-- A value of another kind, which has no members. -/
  | object (tag : Tag) (species : Species) (shown : String)
  /-- A value of another kind, which has these members whenever it is asked. -/
  | collection (tag : Tag) (species : Species) (shown : String) (items : List Value)
  | pathSet (paths : PathSet Tag)
  /-- A union with members that are not sets of paths, or not only. -/
  | looseUnion (tag : Tag) (members : List Value)
  /-- A difference with a part that is not a set of paths. -/
  | looseDifference (tag : Tag) (included excluded : Value)
deriving Inhabited

/-- Where the members of a value come from. -/
inductive Members where
  /-- The value has no members. -/
  | absent
  /-- The value has these members whenever it is asked. -/
  | fixed (items : List Value)
  /-- The members are the integers below a bound, made one by one for the value of a tag. -/
  | below (tag : Tag) (bound : Nat)
  /-- The value is a one-shot iterator, which gives each of its members once. -/
  | oneShot (tag : Tag)
deriving Inhabited

namespace Value

/-- The tag of a value. -/
def tag : Value → Tag
  | .datum tag _ | .list tag _ | .tuple tag _ | .set tag _ | .dict tag _ | .iterator tag
  | .object tag _ _ | .collection tag _ _ _ | .looseUnion tag _ | .looseDifference tag _ _ => tag
  | .pathSet paths => paths.tag

/-- The kind of a value. -/
def kind : Value → Kind
  | .datum _ held => held.kind
  | .list _ _ => .list
  | .tuple _ _ => .tuple
  | .set _ _ => .set
  | .dict _ _ => .dict
  | .iterator _ => .iterator
  | .object _ species _ | .collection _ species _ _ => .other species
  | .pathSet paths => paths.kind
  | .looseUnion _ _ => .union
  | .looseDifference _ _ _ => .difference

/-- The text of a text value. -/
def text? : Value → Option String
  | .datum _ (.text content) => some content
  | _ => none

/-- The integer that a value counts as. -/
def integer? : Value → Option Int
  | .datum _ held => held.integer?
  | _ => none

/-- A value in the role of a path. -/
def subject : Value → Subject
  | .datum _ (.text path) => .text path
  | value => if value.kind.isBinary then .binary else .foreign value.kind

/-- An integer as a member of the value of a tag. -/
def counted (tag : Tag) (number : Nat) : Value :=
  .datum tag (.int number)

/-- Where the members of a value come from: a text has its characters, bytes are integers, and a
dictionary has its keys.  Members that are made on the way bear the tag of what they are made
for. -/
def members : Value → Members
  | .datum tag (.text content) =>
      .fixed (content.toList.map fun char => .datum tag (.text (String.singleton char)))
  | .datum tag (.bytes data) | .datum tag (.byteArray data) =>
      .fixed (data.map fun byte => counted tag byte.toNat)
  | .datum tag (.range bound) => .below tag bound.toNat
  | .list _ items | .tuple _ items | .set _ items | .collection _ _ _ items => .fixed items
  | .dict _ entries => .fixed (entries.map Prod.fst)
  | .iterator tag => .oneShot tag
  | .datum _ _ | .object _ _ _ | .pathSet _ | .looseUnion _ _ | .looseDifference _ _ _ => .absent

/-- Whether two values are one and the same: they were made on one occasion, or they are of those
of which there is only one, as is the empty tuple. -/
def same : Value → Value → Bool
  | .datum leftTag left, .datum rightTag right =>
      left == right && (leftTag == rightTag || left.isUnique)
  | .tuple _ [], .tuple _ [] => true
  | left, right => left.tag == right.tag

end Value
end PathSets
