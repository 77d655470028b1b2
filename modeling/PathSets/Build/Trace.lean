import PathSets.Build.Expression

/-!
# The notices of an expression

What evaluating an expression announces, read off the expression and the values of its parts:
first what the parts announce, from left to right, then what the making itself does.
-/

namespace PathSets

/-- The members of a value, of which an iterator has those that the supply keeps for it. -/
def Supply.membersOf (supply : Supply) (value : Value) : List Value :=
  match value.members with
  | .absent => []
  | .fixed items => items
  | .below tag bound => (List.range bound).map (Value.counted tag)
  | .oneShot iterator => supply.remaining iterator

/-- Whether a value has members and stands for the set of the globs among them. -/
def Value.isSequence : Value → Bool
  | .datum _ (.byteArray _) | .datum _ (.range _) | .list _ _ | .tuple _ _ | .set _ _
  | .iterator _ | .collection _ _ _ _ => true
  | _ => false

namespace Notice

/-- The notice of a glob made from a value: there is none if the value is no text. -/
def ofSource (source : Value) : List Notice :=
  (source.text?.map fun source => .compiled ⟨source⟩).toList

/-- The notices of globs made from members, up to the first that is no text. -/
def ofMembers (members : List Value) : List Notice :=
  (members.takeWhile (·.text?.isSome)).flatMap ofSource

/-- The notices of making the set that a value stands for. -/
def ofSetLike (supply : Supply) (value : Value) : List Notice :=
  match value.text? with
  | some source => [.gathering [value], .compiled ⟨source⟩]
  | none =>
      if value.isSequence then
        .gathering (supply.membersOf value) :: ofMembers (supply.membersOf value)
      else []

/-- The notices of what follows a build, if the build succeeds. -/
def following {α : Type} (build : Build .scribe α) (supply : Supply)
    (notices : Supply → α → List Notice) : List Notice :=
  match (build.run supply).outcome with
  | .ok value => notices (build.run supply).supply value
  | .error _ => []

/-- The notices of making the sets that values stand for, up to the first value that stands for
none. -/
def ofSetLikes (supply : Supply) : List Value → List Notice
  | [] => []
  | value :: rest =>
      ofSetLike supply value
        ++ following (Build.toSet value) supply fun supply _ => ofSetLikes supply rest

end Notice

namespace Expression

open Notice

mutual

/-- The notices of evaluating an expression. -/
def trace (names : Names) (supply : Supply) : Expression → List Notice
  | .constant _ | .sharedEmpty | .named _ | .object _ _ | .newEmpty | .newBlank => []
  | .list items | .tuple items | .set _ items | .collection _ _ items | .iterator items =>
      traceAll names supply items
  | .dict entries => traceEntries names supply entries
  | .single source =>
      source.trace names supply ++
        following (source.evaluate names) supply fun _ value => ofSource value
  | .anyOf sources =>
      sources.trace names supply ++
        following (sources.evaluate names) supply fun supply value =>
          ofMembers (supply.membersOf value)
  | .union sets => sets.trace names supply
  | .difference included excluded =>
      included.trace names supply ++
        following (included.evaluate names) supply fun supply _ => excluded.trace names supply
  | .toSet value =>
      value.trace names supply ++
        following (value.evaluate names) supply fun supply value => ofSetLike supply value
  | .unionOf values =>
      traceAll names supply values ++
        following (evaluateAll names values) supply fun supply values => ofSetLikes supply values
  | .differenceOf included excluded =>
      included.trace names supply ++
        following (included.evaluate names) supply fun supply first =>
          excluded.trace names supply ++
            following (excluded.evaluate names) supply fun supply second =>
              ofSetLikes supply [first, second]

/-- The notices of evaluating the expressions of a list. -/
def traceAll (names : Names) (supply : Supply) : List Expression → List Notice
  | [] => []
  | expression :: rest =>
      expression.trace names supply ++
        following (expression.evaluate names) supply fun supply _ => traceAll names supply rest

/-- The notices of evaluating the entries of a dictionary, up to the first that cannot be one. -/
def traceEntries (names : Names) (supply : Supply) :
    List (Expression × Expression) → List Notice
  | [] => []
  | (key, value) :: rest =>
      key.trace names supply ++
        following (key.evaluate names) supply fun supply held =>
          value.trace names supply ++
            following (value.evaluate names >>= fun _ => Build.requireKey held) supply
              fun supply _ => traceEntries names supply rest

end

end Expression
end PathSets
