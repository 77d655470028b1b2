import PathSets.Build.Factory
import PathSets.Value.Equality

/-!
# Expressions

An expression writes a value by how it is made.  Its parts are evaluated first, from left to
right, and the first fault decides.
-/

namespace PathSets

/-- The order in which a set gives its members, which nothing but the set itself decides. -/
structure Arrangement where
  /-- The members in that order. -/
  arrange : List Value → List Value
  /-- Nothing is lost or repeated. -/
  perm : ∀ members, (arrange members).Perm members

instance : Inhabited Arrangement :=
  ⟨⟨id, fun members => List.Perm.refl members⟩⟩

/-- An expression for a value. -/
inductive Expression where
  /-- A datum, made anew. -/
  | constant (datum : Datum)
  /-- The one empty set that all builds share. -/
  | sharedEmpty
  /-- The value that has a name. -/
  | named (name : String)
  | list (items : List Expression)
  | tuple (items : List Expression)
  /-- A set, which gives its members in the order of an arrangement. -/
  | set (arrangement : Arrangement) (items : List Expression)
  | dict (entries : List (Expression × Expression))
  /-- A new one-shot iterator. -/
  | iterator (items : List Expression)
  /-- A new value of another kind, which has no members. -/
  | object (species : Species) (shown : String)
  /-- A new value of another kind, which has these members. -/
  | collection (species : Species) (shown : String) (items : List Expression)
  /-- A new empty set. -/
  | newEmpty
  /-- A new blank set. -/
  | newBlank
  /-- The set of one glob. -/
  | single (source : Expression)
  /-- The set of a sequence of globs. -/
  | anyOf (sources : Expression)
  /-- The union of the members of a value. -/
  | union (sets : Expression)
  /-- The difference of two values. -/
  | difference (included excluded : Expression)
  /-- The set that a value stands for. -/
  | toSet (value : Expression)
  /-- The union of the sets that values stand for. -/
  | unionOf (values : List Expression)
  /-- The difference of the sets that two values stand for. -/
  | differenceOf (included excluded : Expression)
deriving Inhabited

/-- Set a key of a dictionary; a key that it has already keeps its place. -/
def setEntry (key value : Value) : List (Value × Value) → List (Value × Value)
  | [] => [(key, value)]
  | (other, held) :: rest =>
      if other.alike key then (other, value) :: rest else (other, held) :: setEntry key value rest

/-- The entries of the dictionary that entries make, in order. -/
def distinctEntries (entries : List (Value × Value)) : List (Value × Value) :=
  entries.foldl (fun dict entry => setEntry entry.1 entry.2 dict) []

/-- The members of the set that values make: of values that count as equal the first is kept. -/
def distinctMembers (values : List Value) : List Value :=
  values.foldl (fun kept value => if kept.any (·.alike value) then kept else kept ++ [value]) []

namespace Build

variable {audience : Audience}

/-- Make sure that a value can be a key. -/
def requireKey (value : Value) : Build audience Unit := do
  let _ ← ofExcept value.fingerprint

/-- Make sure that all values of a list can be members of a set. -/
def requireKeys (values : List Value) : Build audience Unit := do
  let _ ← ofExcept (Value.fingerprintAll values)

end Build

/-- The values that have names. -/
abbrev Names := String → Option Value

namespace Expression

variable {audience : Audience}

mutual

/-- Evaluate an expression. -/
def evaluate (names : Names) : Expression → Build audience Value
  | .constant datum => do return .datum (← Build.fresh) datum
  | .sharedEmpty => pure (.pathSet PathSets.sharedEmpty)
  | .named name =>
      match names name with
      | some value => pure value
      | none => Build.fail (.unbound name)
  | .list items => do
      let members ← evaluateAll names items
      return .list (← Build.fresh) members
  | .tuple items => do
      let members ← evaluateAll names items
      return .tuple (← Build.fresh) members
  | .set arrangement items => do
      let members ← evaluateAll names items
      Build.requireKeys members
      return .set (← Build.fresh) (arrangement.arrange (distinctMembers members))
  | .dict entries => do
      let entries ← evaluateEntries names entries
      return .dict (← Build.fresh) (distinctEntries entries)
  | .iterator items => do
      let members ← evaluateAll names items
      let tag ← Build.fresh
      Build.leave tag members
      return .iterator tag
  | .object species shown => do return .object (← Build.fresh) species shown
  | .collection species shown items => do
      let members ← evaluateAll names items
      return .collection (← Build.fresh) species shown members
  | .newEmpty => do return .pathSet (.empty (← Build.fresh))
  | .newBlank => do return .pathSet (.blank (← Build.fresh))
  | .single source => do Build.single (← source.evaluate names)
  | .anyOf sources => do Build.anyOf (← sources.evaluate names)
  | .union sets => do Build.union (← sets.evaluate names)
  | .difference included excluded => do
      let first ← included.evaluate names
      let second ← excluded.evaluate names
      Build.difference first second
  | .toSet value => do Build.toSet (← value.evaluate names)
  | .unionOf values => do Build.unionOf (← evaluateAll names values)
  | .differenceOf included excluded => do
      let first ← included.evaluate names
      let second ← excluded.evaluate names
      Build.differenceOf first second

/-- Evaluate the expressions of a list, from left to right. -/
def evaluateAll (names : Names) : List Expression → Build audience (List Value)
  | [] => pure []
  | expression :: rest => do
      let first ← expression.evaluate names
      let others ← evaluateAll names rest
      return first :: others

/-- Evaluate the entries of a dictionary, each key before its value; only then is the key
checked. -/
def evaluateEntries (names : Names) :
    List (Expression × Expression) → Build audience (List (Value × Value))
  | [] => pure []
  | (key, value) :: rest => do
      let first ← key.evaluate names
      let second ← value.evaluate names
      Build.requireKey first
      let others ← evaluateEntries names rest
      return (first, second) :: others

end

/-- Evaluate an expression that has to give a set; `refuse` words the fault of anything else. -/
def evaluateSet (names : Names) (refuse : Kind → Fault) (expression : Expression) :
    Build audience Value := do
  let value ← expression.evaluate names
  if value.isSet then return value else Build.fail (refuse value.kind)

end Expression
end PathSets
