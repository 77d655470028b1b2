import PathSets.Build.Visit

/-!
# Making sets

The constructors take arguments of one shape each; what a union or a difference is made of, they do
not look at.  The factories `toSet`, `unionOf` and `differenceOf` take nothing, a text, a sequence
of texts or a set wherever they expect a set, and hand an existing set on as it is.

The public names of the constructors are `FileGlob` and `make` for `Build.single`, `FileGlobSet` for
`Build.anyOf`, `Union` for `Build.union` and `Complement` for `Build.difference`; those of the
factories are `make_set`, `make_union` and `make_complement`, and that of `globText` is
`validate_glob`.
-/

namespace PathSets

/-- The text of a glob, if a value is one. -/
def globText (value : Value) : Except Fault String :=
  match value.text? with
  | some source => .ok source
  | none => .error (.globNotText value.kind)

namespace Build

variable {audience : Audience}

/-- Compile a glob. -/
def compile (source : String) : Build audience Glob := do
  announce (.compiled ⟨source⟩)
  return ⟨source⟩

/-- The set of the paths of one glob. -/
def single (source : Value) : Build audience Value := do
  let glob ← compile (← ofExcept (globText source))
  return .pathSet (.single (← fresh) glob)

/-- Compile one member of a sequence of globs. -/
def compileMember (index : Nat) (member : Value) : Build audience Glob :=
  match member.text? with
  | some source => compile source
  | none => fail (.memberNotText index member.kind)

/-- The set of the paths of any glob of a sequence. -/
def anyOf (sources : Value) : Build audience Value := do
  let globs ← visit sources compileMember
  return .pathSet (.anyOf (← fresh) globs)

/-- The union of the members of a value, whatever they are. -/
def union (sets : Value) : Build audience Value := do
  let members ← membersOf sets
  return .unionOf (← fresh) members

/-- The difference of two values, whatever they are. -/
def difference (included excluded : Value) : Build audience Value := do
  return .differenceOf (← fresh) included excluded

/-- Announce the members of a set to be, and make it. -/
def gather (members : List Value) : Build audience Value := do
  announce (.gathering members)
  let globs ← visitList (fun _ => pure ()) compileMember 0 members
  return .pathSet (.anyOf (← fresh) globs)

/-- The set that a value stands for: nothing for the shared empty set, a set for itself, a text for
its one glob, and a sequence for its globs.  Bytes and dictionaries have members but stand for no
set. -/
def toSet (value : Value) : Build audience Value :=
  match value with
  | .datum _ .none => pure (.pathSet sharedEmpty)
  | .pathSet _ | .looseUnion _ _ | .looseDifference _ _ _ => pure value
  | .datum _ (.text _) => gather [value]
  | .datum _ (.byteArray _) | .datum _ (.range _) | .list _ _ | .tuple _ _ | .set _ _
  | .iterator _ | .collection _ _ _ _ => do
      gather (← membersOf value)
  | .datum _ _ | .dict _ _ | .object _ _ _ => fail (.notSetLike value.kind)

/-- The sets that values stand for, from left to right. -/
def toSets : List Value → Build audience (List Value)
  | [] => pure []
  | value :: rest => do
      let first ← toSet value
      let others ← toSets rest
      return first :: others

/-- The union of the sets that values stand for. -/
def unionOf (values : List Value) : Build audience Value := do
  let members ← toSets values
  return .unionOf (← fresh) members

/-- The difference of the sets that two values stand for. -/
def differenceOf (included excluded : Value) : Build audience Value := do
  let first ← toSet included
  let second ← toSet excluded
  return .differenceOf (← fresh) first second

end Build
end PathSets
