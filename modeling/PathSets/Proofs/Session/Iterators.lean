import Mathlib.Data.List.TakeWhile
import PathSets.Proofs.Build.Normalizing
import PathSets.Proofs.Build.Sifting
import PathSets.Proofs.Session.Effects

/-!
# Iterators in use

A use of an iterator takes members off its front as far as it looks, and leaves the others.  Making
the set that the iterator stands for looks at all members; making the set of its globs looks as far
as the first member that is no text, and sifting as far as the first member that the set makes a
fault of.  The empty set looks at no member, and neither does a set that is asked about the iterator
itself.  So the members that the uses of a run take, put one behind the other, are the members that
the iterator no longer has.
-/

namespace PathSets

/-! ## Members up to the first one refused -/

/-- The members up to the first that does not pass, that one included. -/
def through (passes : Value → Bool) : List Value → List Value
  | [] => []
  | member :: rest => if passes member then member :: through passes rest else [member]

/-- Members are taken up to the first that does not pass, that one included, or all of them if all
pass. -/
inductive TakenThrough (passes : Value → Prop) : (members taken left : List Value) → Prop
  | all {members : List Value} (each : ∀ member ∈ members, passes member) :
      TakenThrough passes members members []
  | refused (front : List Value) {rest : List Value} {member : Value}
      (each : ∀ other ∈ front, passes other) (stop : ¬passes member) :
      TakenThrough passes (front ++ member :: rest) (front ++ [member]) rest

theorem takenThrough_through (passes : Value → Bool) (members : List Value) :
    TakenThrough (fun member => passes member = true) members (through passes members)
      (members.dropWhile passes).tail := by
  induction members with
  | nil => exact .all nofun
  | cons member rest ih =>
      cases passed : passes member with
      | false =>
          simp only [through, passed, List.dropWhile_cons, Bool.false_eq_true, if_false,
            List.tail_cons]
          exact .refused [] nofun (Bool.eq_false_iff.mp passed)
      | true =>
          simp only [through, passed, List.dropWhile_cons, if_true]
          generalize through passes rest = taken, (rest.dropWhile passes).tail = left at ih
          cases ih with
          | all each => exact .all (List.forall_mem_cons.mpr ⟨passed, each⟩)
          | refused front each stop =>
              exact .refused (member :: front) (List.forall_mem_cons.mpr ⟨passed, each⟩) stop

theorem TakenThrough.append_eq {passes : Value → Prop} {members taken left : List Value}
    (takes : TakenThrough passes members taken left) : taken ++ left = members := by
  cases takes with
  | all => exact List.append_nil _
  | refused => rw [List.append_assoc, List.singleton_append]

theorem through_of_forall {passes : Value → Bool} {members : List Value}
    (each : ∀ member ∈ members, passes member = true) : through passes members = members := by
  induction members with
  | nil => rfl
  | cons member rest ih =>
      rw [List.forall_mem_cons] at each
      rw [through, if_pos each.1, ih each.2]

theorem takeWhile_through (passes : Value → Bool) (members : List Value) :
    (through passes members).takeWhile passes = members.takeWhile passes := by
  induction members with
  | nil => rfl
  | cons member rest ih => cases passed : passes member <;> simp [through, passed, ih]

namespace Build

variable {β : Type}

/-- What asking members comes to is settled by the first that is refused. -/
theorem askAll_through {act : Nat → Value → Build .scribe β} {ask : Nat → Value → Except Fault β}
    {passes : Value → Bool} {announced : Value → List Notice}
    (examines : Examines act ask passes announced) (index : Nat) (members : List Value) :
    askAll ask index (through passes members) = askAll ask index members := by
  induction members generalizing index with
  | nil => rfl
  | cons member rest ih =>
      cases passed : passes member with
      | false =>
          obtain ⟨fault, asked, -⟩ := examines.of_refuses passed index .initial
          rw [askAll_cons_of_error asked]
          simp only [through, passed, Bool.false_eq_true, if_false]
          exact askAll_cons_of_error asked []
      | true =>
          obtain ⟨result, asked, -⟩ := examines.of_passes passed index .initial
          simp only [through, passed, if_true]
          rw [askAll_cons_of_ok asked, askAll_cons_of_ok asked, ih]

theorem ofExcept_map {audience : Audience} {α : Type} (outcome : Except Fault α)
    (make : α → β) :
    (do return make (← ofExcept outcome)) = (ofExcept (outcome.map make) : Build audience β) := by
  cases outcome <;> rfl

theorem sifted_through (test : Subject → Except Fault Bool) (members : List Value) :
    sifted test (through (answers test) members) = sifted test members := by
  rw [← map_held_askAll test 0, ← map_held_askAll test 0, askAll_through (examines_testMember test)]

/-! ## Builds that take members of an iterator -/

/-- A build takes some members of an iterator and leaves the others.  All other iterators keep what
they have, and what the build comes to and announces is settled by the members that it takes. -/
structure Takes {α : Type} (build : Build .scribe α) (supply : Supply) (iterator : Tag)
    (taken left : List Value) : Prop where
  remaining : (build.run supply).supply.remaining = (supply.leave iterator left).remaining
  outcome : (build.run (supply.leave iterator taken)).outcome = (build.run supply).outcome
  notices : (build.run (supply.leave iterator taken)).notices = (build.run supply).notices

variable {α β : Type} {supply : Supply} {iterator : Tag}

theorem Takes.map {build : Build .scribe α} {taken left : List Value}
    (takes : Takes build supply iterator taken left) (make : α → β) :
    Takes (do return make (← build)) supply iterator taken left where
  remaining := by rw [run_map, takes.remaining]
  outcome := by rw [run_map, run_map, takes.outcome]
  notices := by rw [run_map, run_map, takes.notices]

theorem takes_nothing (outcome : Except Fault α) (supply : Supply) (iterator : Tag) :
    Takes (ofExcept outcome) supply iterator [] (supply.remaining iterator) := by
  cases outcome with
  | error fault => exact ⟨congrArg _ (supply.leave_remaining iterator).symm, rfl, rfl⟩
  | ok value => exact ⟨congrArg _ (supply.leave_remaining iterator).symm, rfl, rfl⟩

theorem remaining_tagged (supply : Supply) (outcome : Except Fault α) :
    (supply.tagged outcome).remaining = supply.remaining := by
  cases outcome <;> rfl

theorem run_toSet_iterator (iterator : Tag) (supply : Supply) :
    (toSet (.iterator iterator)).run supply =
      ⟨globSet supply.next (supply.remaining iterator),
        (supply.leave iterator []).tagged (globSet supply.next (supply.remaining iterator)),
        .gathering (supply.remaining iterator) :: Notice.ofMembers (supply.remaining iterator)⟩ :=
  run_toSet_of_isSequence rfl supply

theorem run_anyOf_iterator (iterator : Tag) (supply : Supply) :
    (anyOf (.iterator iterator)).run supply =
      ⟨globSet supply.next (supply.remaining iterator),
        (supply.leave iterator (behindTexts (supply.remaining iterator))).tagged
          (globSet supply.next (supply.remaining iterator)),
        Notice.ofMembers (supply.remaining iterator)⟩ :=
  run_anyOf (by nofun) supply

theorem run_siftBy_iterator (test : Subject → Except Fault Bool) (iterator : Tag)
    (supply : Supply) :
    (siftBy test (.iterator iterator)).run supply =
      ⟨sifted test (supply.remaining iterator),
        supply.leave iterator (unseen test (supply.remaining iterator)), []⟩ :=
  run_siftBy (by nofun) supply

theorem takes_toSet (supply : Supply) (iterator : Tag) :
    Takes (toSet (.iterator iterator)) supply iterator (supply.remaining iterator) [] where
  remaining := by rw [run_toSet_iterator, remaining_tagged]
  outcome := by rw [supply.leave_remaining]
  notices := by rw [supply.leave_remaining]

theorem takes_anyOf (supply : Supply) (iterator : Tag) :
    Takes (anyOf (.iterator iterator)) supply iterator
      (through (·.text?.isSome) (supply.remaining iterator))
      (behindTexts (supply.remaining iterator)) where
  remaining := by rw [run_anyOf_iterator, remaining_tagged]
  outcome := by
    simp only [run_anyOf_iterator, Supply.leave_remaining_self, Supply.leave_next, globSet,
      askAll_through examines_compileMember]
  notices := by
    simp only [run_anyOf_iterator, Supply.leave_remaining_self, Notice.ofMembers,
      takeWhile_through]

theorem takes_siftOf {set : Value} (nonempty : set.kind ≠ .emptySet) (supply : Supply)
    (iterator : Tag) :
    Takes (siftOf set (.iterator iterator)) supply iterator
      (through (answers set.test) (supply.remaining iterator))
      (unseen set.test (supply.remaining iterator)) := by
  rw [siftOf_eq_siftBy nonempty]
  constructor
  · rw [run_siftBy_iterator]
  · simp only [run_siftBy_iterator, Supply.leave_remaining_self, sifted_through]
  · simp only [run_siftBy_iterator]

end Build

/-! ## Uses of an iterator -/

/-- The set of a name, or why the name is not that of a set; `refuse` words the fault of anything
else. -/
def Names.findSet (names : Names) (refuse : Kind → Fault) (name : String) : Except Fault Value :=
  match names name with
  | some value => if value.isSet then .ok value else .error (refuse value.kind)
  | none => .error (.unbound name)

theorem Expression.evaluateSet_named {audience : Audience} (names : Names)
    (refuse : Kind → Fault) (name : String) :
    (Expression.named name).evaluateSet names refuse =
      (Build.ofExcept (names.findSet refuse name) : Build audience Value) := by
  unfold evaluateSet evaluate Names.findSet
  cases names name with
  | none => rfl
  | some value =>
      simp only [pure_bind]
      cases value.isSet <;> rfl

/-- Something that is done with the iterator of a name. -/
inductive Use where
  /-- Give a name to the set that the iterator stands for. -/
  | toSet (bound : String)
  /-- Give a name to the set of the globs of its members. -/
  | anyOf (bound : String)
  /-- Sift its members with the set of a name. -/
  | sift (set : String)
  /-- Ask whether the set of a name holds of the iterator as a path. -/
  | test (set : String)
  /-- Ask whether the iterator as a path is in the set of a name. -/
  | contains (set : String)
deriving DecidableEq, Repr, Inhabited

namespace Use

/-- A use as a query. -/
def query (name : String) : Use → Query
  | .toSet bound => .define bound (.toSet (.named name))
  | .anyOf bound => .define bound (.anyOf (.named name))
  | .sift set => .sift (.named set) (.named name)
  | .test set => .test (.named set) (.named name)
  | .contains set => .contains (.named set) (.named name)

/-- Uses as steps of a session. -/
def steps (name : String) (uses : List Use) : List Step :=
  uses.map fun use => .query (use.query name)

/-- The name that a use gives. -/
def bound? : Use → Option String
  | .toSet bound | .anyOf bound => some bound
  | .sift _ | .test _ | .contains _ => none

/-- How far a use looks: whether it gets past a member to the next one.  Some uses do not look at
members at all. -/
def passes? (names : Names) : Use → Option (Value → Bool)
  | .toSet _ => some fun _ => true
  | .anyOf _ => some (·.text?.isSome)
  | .sift set =>
      match names.findSet (.operationMissing · "filter") set with
      | .error _ => none
      | .ok set => if set.kind = .emptySet then none else some (Build.answers set.test)
  | .test _ | .contains _ => none

/-- The members that a use takes, of those that the iterator has. -/
def taken (names : Names) (members : List Value) (use : Use) : List Value :=
  match use.passes? names with
  | some passes => through passes members
  | none => []

/-- The members that a use leaves, of those that the iterator has. -/
def left (names : Names) (members : List Value) (use : Use) : List Value :=
  match use.passes? names with
  | some passes => (members.dropWhile passes).tail
  | none => members

variable {names : Names} {name : String} {iterator : Tag}

theorem taken_append_left (names : Names) (members : List Value) (use : Use) :
    use.taken names members ++ use.left names members = members := by
  unfold taken left
  cases use.passes? names with
  | some passes => exact (takenThrough_through passes members).append_eq
  | none => rfl

theorem taken_toSet (names : Names) (members : List Value) (bound : String) :
    (toSet bound).taken names members = members :=
  through_of_forall fun _ _ => rfl

theorem left_toSet (names : Names) (members : List Value) (bound : String) :
    (toSet bound).left names members = [] := by
  have passed : members.dropWhile (fun _ => true) = [] :=
    List.dropWhile_eq_nil_iff.mpr fun _ _ => rfl
  simp only [left, passes?, passed, List.tail_nil]

open Build

theorem find_toSet (named : names name = some (.iterator iterator)) (bound : String) :
    ((toSet bound).query name).find names =
      (do return .value (← Build.toSet (.iterator iterator)) : Build .scribe Finding) := by
  simp only [query, Query.find, Expression.evaluate, named, pure_bind]

theorem find_anyOf (named : names name = some (.iterator iterator)) (bound : String) :
    ((anyOf bound).query name).find names =
      (do return .value (← Build.anyOf (.iterator iterator)) : Build .scribe Finding) := by
  simp only [query, Query.find, Expression.evaluate, named, pure_bind]

theorem find_sift (named : names name = some (.iterator iterator)) (set : String) :
    ((sift set).query name).find names = (do
      let set ← Build.ofExcept (names.findSet (.operationMissing · "filter") set)
      return .selected (← Build.siftOf set (.iterator iterator)) : Build .scribe Finding) := by
  simp only [query, Query.find, Expression.evaluateSet_named, Expression.evaluate, named,
    pure_bind]

/-- Asking a set about an iterator as a path leaves the supply as it is. -/
theorem find_test (named : names name = some (.iterator iterator)) (set : String) :
    (∃ outcome, ((test set).query name).find names =
        (Build.ofExcept outcome : Build .scribe Finding)) ∧
      ∃ outcome, ((contains set).query name).find names =
        (Build.ofExcept outcome : Build .scribe Finding) := by
  have asked (found : Except Fault Value) : ∃ outcome : Except Fault Finding,
      (do
        let set ← Build.ofExcept found
        return .truth (← Build.ofExcept (set.test (.foreign .iterator)))) =
      (Build.ofExcept outcome : Build .scribe Finding) := by
    cases found with
    | error fault => exact ⟨.error fault, rfl⟩
    | ok paths => exact ⟨_, Build.ofExcept_map (paths.test (.foreign .iterator)) Finding.truth⟩
  simp only [query, Query.find, Expression.evaluateSet_named, Expression.evaluate, named,
    pure_bind]
  exact ⟨asked _, asked _⟩

theorem query_ne_define {use : Use} {bound : String} (kept : use.bound? ≠ some bound)
    (name : String) (value : Expression) : use.query name ≠ .define bound value := by
  rintro defines
  cases use with
  | toSet own | anyOf own =>
      obtain ⟨rfl, -⟩ := Query.define.inj defines
      exact kept rfl
  | sift | test | contains => cases defines

/-- A use takes members as far as it looks. -/
theorem takes_query (named : names name = some (.iterator iterator)) (use : Use)
    (supply : Supply) :
    Takes ((use.query name).find names) supply iterator
      (use.taken names (supply.remaining iterator))
      (use.left names (supply.remaining iterator)) := by
  cases use with
  | toSet bound =>
      rw [find_toSet named, taken_toSet, left_toSet]
      exact (takes_toSet supply iterator).map _
  | anyOf bound =>
      rw [find_anyOf named]
      exact (takes_anyOf supply iterator).map _
  | sift set =>
      simp only [find_sift named, taken, left, passes?]
      cases names.findSet (.operationMissing · "filter") set with
      | error fault => exact takes_nothing (.error fault) supply iterator
      | ok paths =>
          by_cases empty : paths.kind = .emptySet
          · simp only [if_pos empty]
            change Takes (do return Finding.selected (← siftOf paths (.iterator iterator)))
              supply iterator _ _
            rw [siftOf_of_empty empty]
            exact (takes_nothing (.ok []) supply iterator).map _
          · simp only [if_neg empty]
            exact (takes_siftOf empty supply iterator).map _
  | test set =>
      obtain ⟨outcome, tested⟩ := (find_test named set).1
      rw [tested]
      exact takes_nothing outcome supply iterator
  | contains set =>
      obtain ⟨outcome, tested⟩ := (find_test named set).2
      rw [tested]
      exact takes_nothing outcome supply iterator

end Use

namespace Build

/-- A union of an iterator of texts with itself: the first member has all globs, and the second one
has none. -/
theorem run_unionOf_iterator_twice {globs : List Glob}
    (each : (supply.remaining iterator).map Value.text? = globs.map fun glob => some glob.source) :
    ((unionOf [.iterator iterator, .iterator iterator]).run supply).outcome =
        .ok (.pathSet (.union (supply.next + 2)
          [.anyOf supply.next globs, .anyOf (supply.next + 1) []])) ∧
      ((unionOf [.iterator iterator, .iterator iterator]).run supply).supply.remaining iterator =
        [] := by
  have emptied : (supply.afterSet (.iterator iterator)).membersOf (.iterator iterator) = [] :=
    supply.leave_remaining_self iterator []
  have first : StandsFor supply (.iterator iterator) (.pathSet (.anyOf supply.next globs)) :=
    .sequence rfl each
  have second : StandsFor (supply.afterSet (.iterator iterator)) (.iterator iterator)
      (.pathSet (.anyOf (supply.next + 1) [])) :=
    .sequence rfl (congrArg (List.map Value.text?) emptied)
  obtain ⟨made, left⟩ := run_toSets_of_standForAll (.cons first (.cons second (.nil _)))
  rw [unionOf, run_tagged, made, left]
  exact ⟨rfl, Supply.leave_remaining_self _ iterator []⟩

end Build

/-! ## Runs -/

namespace Session

theorem report_ask (session : Session) (query : Query) :
    (session.ask query).1 =
      ⟨((query.find session.names).run session.supply).outcome.map .finding,
        (session.log.announceAll ((query.find session.names).run session.supply).notices).1⟩ := by
  simp only [ask, perform_eq]

theorem supply_ask (session : Session) (query : Query) :
    (session.ask query).2.supply = ((query.find session.names).run session.supply).supply := by
  simp only [ask, perform_eq]
  split <;> rfl

/-- A query binds no other name than its own. -/
theorem names_ask (session : Session) {query : Query} {name : String}
    (other : ∀ value, query ≠ .define name value) :
    (session.ask query).2.names name = session.names name := by
  simp only [ask, perform_eq]
  split
  case h_1 bound expression value evaluated =>
    have different : name ≠ bound := fun same => other expression (by rw [same])
    simp only [define, if_neg different]
  case h_2 => rfl

variable {session : Session} {name : String} {iterator : Tag}

/-- The members that the uses of a run take, use by use. -/
def takenAlong (session : Session) (name : String) (iterator : Tag) : List Use → List (List Value)
  | [] => []
  | use :: rest =>
      use.taken session.names (session.supply.remaining iterator) ::
        (session.ask (use.query name)).2.takenAlong name iterator rest

theorem remaining_ask (named : session.names name = some (.iterator iterator)) (use : Use) :
    (session.ask (use.query name)).2.supply.remaining =
      (session.supply.leave iterator
        (use.left session.names (session.supply.remaining iterator))).remaining := by
  rw [supply_ask]
  exact (use.takes_query named session.supply).remaining

theorem takenAlong_append_remaining (named : session.names name = some (.iterator iterator))
    {uses : List Use} (kept : ∀ use ∈ uses, use.bound? ≠ some name) :
    (session.takenAlong name iterator uses).flatten ++
        (session.run (Use.steps name uses)).2.supply.remaining iterator =
      session.supply.remaining iterator := by
  induction uses generalizing session with
  | nil => rfl
  | cons use rest ih =>
      rw [List.forall_mem_cons] at kept
      have still : (session.ask (use.query name)).2.names name = some (.iterator iterator) :=
        (session.names_ask (Use.query_ne_define kept.1 name)).trans named
      have later := ih still kept.2
      rw [remaining_ask named use, Supply.leave_remaining_self] at later
      rw [takenAlong, List.flatten_cons, List.append_assoc]
      calc
        _ = use.taken session.names (session.supply.remaining iterator) ++
              use.left session.names (session.supply.remaining iterator) :=
            congrArg _ later
        _ = session.supply.remaining iterator := use.taken_append_left _ _

/-! ## What each use does -/

theorem remaining_ask_self (named : session.names name = some (.iterator iterator)) (use : Use) :
    (session.ask (use.query name)).2.supply.remaining iterator =
      use.left session.names (session.supply.remaining iterator) := by
  rw [remaining_ask named, Supply.leave_remaining_self]

theorem exists_answer_iff (session : Session) (query : Query) :
    (∃ answer, (session.ask query).1.answer = .ok answer) ↔
      ∃ finding, ((query.find session.names).run session.supply).outcome = .ok finding := by
  rw [report_ask]
  cases ((query.find session.names).run session.supply).outcome <;> simp [Except.map]

/-- Making the set of the globs of the members looks as far as the first member that is no text. -/
theorem ask_anyOf (named : session.names name = some (.iterator iterator)) (bound : String) :
    let members := session.supply.remaining iterator
    let asked := session.ask ((Use.anyOf bound).query name)
    TakenThrough (fun member => member.text?.isSome = true) members
        ((Use.anyOf bound).taken session.names members) (asked.2.supply.remaining iterator) ∧
      ((∃ answer, asked.1.answer = .ok answer) ↔
        ∀ member ∈ members, member.text?.isSome = true) := by
  intro members asked
  constructor
  · rw [remaining_ask_self named]
    exact takenThrough_through (·.text?.isSome) members
  · rw [exists_answer_iff, Use.find_anyOf named, Build.run_map, Build.exists_map_eq_ok_iff,
      Build.run_anyOf_iterator]
    exact Build.exists_globSet_eq_ok_iff

/-- Sifting looks as far as the first member that the set makes a fault of. -/
theorem ask_sift (named : session.names name = some (.iterator iterator)) {set : String}
    {value : Value} (isValue : session.names set = some value) (isSet : value.isSet = true)
    (nonempty : value.kind ≠ .emptySet) :
    let members := session.supply.remaining iterator
    let asked := session.ask ((Use.sift set).query name)
    TakenThrough (fun member => ∃ holds, value.test member.subject = .ok holds) members
        ((Use.sift set).taken session.names members) (asked.2.supply.remaining iterator) ∧
      ((∃ answer, asked.1.answer = .ok answer) ↔
        ∀ member ∈ members, ∃ holds, value.test member.subject = .ok holds) := by
  intro members asked
  have found : session.names.findSet (.operationMissing · "filter") set = .ok value := by
    simp only [Names.findSet, isValue, isSet, if_true]
  have looks : (Use.sift set).passes? session.names = some (Build.answers value.test) := by
    simp only [Use.passes?, found, if_neg nonempty]
  constructor
  · rw [remaining_ask_self named]
    have takes := takenThrough_through (Build.answers value.test) members
    simp only [Build.answers_iff] at takes
    simpa only [Use.taken, Use.left, looks] using takes
  · have looked : ((Use.sift set).query name).find session.names =
        (do return .selected (← Build.siftOf value (.iterator iterator)) :
          Build .scribe Finding) := by
      rw [Use.find_sift named, found]
      rfl
    rw [exists_answer_iff, looked, Build.run_map, Build.exists_map_eq_ok_iff,
      Build.siftOf_eq_siftBy nonempty, Build.run_siftBy_iterator]
    exact Build.exists_sifted_eq_ok_iff value.test

/-- A set that is asked about an iterator as a path takes nothing. -/
theorem supply_ask_test (named : session.names name = some (.iterator iterator)) (set : String) :
    (session.ask ((Use.test set).query name)).2.supply = session.supply ∧
      (session.ask ((Use.contains set).query name)).2.supply = session.supply := by
  obtain ⟨⟨outcome, tested⟩, other, contained⟩ := Use.find_test named set
  rw [supply_ask, supply_ask, tested, contained]
  cases outcome <;> cases other <;> exact ⟨rfl, rfl⟩

theorem ask_unionOf_twice (named : session.names name = some (.iterator iterator))
    {globs : List Glob}
    (each : (session.supply.remaining iterator).map Value.text? =
      globs.map fun glob => some glob.source) (bound : String) :
    let asked := session.ask (.define bound (.unionOf [.named name, .named name]))
    let next := session.supply.next
    asked.1.answer = .ok (.finding (.value (.pathSet
        (.union (next + 2) [.anyOf next globs, .anyOf (next + 1) []])))) ∧
      asked.2.supply.remaining iterator = [] := by
  have found : (Query.define bound (.unionOf [.named name, .named name])).find session.names =
      (do return .value (← Build.unionOf [.iterator iterator, .iterator iterator]) :
        Build .scribe Finding) := by
    simp only [Query.find, Expression.evaluate, Expression.evaluateAll, named, pure_bind]
  obtain ⟨made, left⟩ := Build.run_unionOf_iterator_twice each
  simp only [report_ask, supply_ask, found, Build.run_map]
  rw [made, left]
  exact ⟨rfl, rfl⟩

/-- An iterator is used up as far as each use looks, in every session.  Making the set that it
stands for leaves no members, also when it fails.  Making the set of its globs leaves the members
behind the first that is no text, and sifting it those behind the first that the set makes a fault
of; if there is none, no members are left and the use does not fail.  Sifting with the empty set
and asking a set about the iterator itself leave all members.  The members taken settle the report,
and other iterators keep their members.  So over a run of uses every member is taken by exactly one
use, or left: put in order, what was taken and what is left are the members that there were.  In a
union of an iterator of texts with itself, the first set has all globs and the second has none. -/
theorem uses_take_members_in_turn (session : Session) {name : String} {iterator : Tag}
    (named : session.names name = some (.iterator iterator)) :
    let members := session.supply.remaining iterator
    let asked (use : Use) := session.ask (use.query name)
    let taken (use : Use) := use.taken session.names members
    let left (use : Use) := (asked use).2.supply.remaining iterator
    (∀ bound, left (.toSet bound) = []) ∧
      (∀ bound,
        TakenThrough (fun member => member.text?.isSome = true) members (taken (.anyOf bound))
            (left (.anyOf bound)) ∧
          ((∃ answer, (asked (.anyOf bound)).1.answer = .ok answer) ↔
            ∀ member ∈ members, member.text?.isSome = true)) ∧
      (∀ set value, session.names set = some value → value.isSet = true →
        value.kind ≠ .emptySet →
        TakenThrough (fun member => ∃ holds, value.test member.subject = .ok holds) members
            (taken (.sift set)) (left (.sift set)) ∧
          ((∃ answer, (asked (.sift set)).1.answer = .ok answer) ↔
            ∀ member ∈ members, ∃ holds, value.test member.subject = .ok holds)) ∧
      (∀ set tag, session.names set = some (.pathSet (.empty tag)) → left (.sift set) = members) ∧
      (∀ set, (asked (.test set)).2.supply = session.supply ∧
        (asked (.contains set)).2.supply = session.supply) ∧
      (∀ use other, other ≠ iterator →
        (asked use).2.supply.remaining other = session.supply.remaining other) ∧
      (∀ use, (Session.ask
          { session with supply := session.supply.leave iterator (taken use) } (use.query name)).1 =
        (asked use).1) ∧
      (∀ uses, (∀ use ∈ uses, use.bound? ≠ some name) →
        (session.takenAlong name iterator uses).flatten ++
            (session.run (Use.steps name uses)).2.supply.remaining iterator =
          members) ∧
      ∀ bound globs, members.map Value.text? = globs.map (fun glob => some glob.source) →
        let asked := session.ask (.define bound (.unionOf [.named name, .named name]))
        let next := session.supply.next
        asked.1.answer = .ok (.finding (.value (.pathSet
            (.union (next + 2) [.anyOf next globs, .anyOf (next + 1) []])))) ∧
          asked.2.supply.remaining iterator = [] := by
  refine ⟨fun bound => ?_, fun bound => ask_anyOf named bound,
    fun set value isValue isSet nonempty => ask_sift named isValue isSet nonempty,
    fun set tag isSet => ?_,
    supply_ask_test named, fun use other different => ?_, fun use => ?_,
    fun uses kept => takenAlong_append_remaining named kept,
    fun bound globs each => ask_unionOf_twice named each bound⟩
  · exact (remaining_ask_self named _).trans (Use.left_toSet _ _ bound)
  · refine (remaining_ask_self named _).trans ?_
    simp only [Use.left, Use.passes?, Names.findSet, isSet]
    rfl
  · rw [remaining_ask named, Supply.leave_remaining_of_ne _ _ different]
  · have takes := use.takes_query named session.supply
    rw [report_ask, report_ask, takes.outcome, takes.notices]

/-- Of two texts with nothing between them, sifting takes the first text and what follows it, and
the other text is left.  A second iterator has texts only. -/
theorem uses_take_members_of_texts_around_nothing :
    let text (content : String) : Expression := .constant (.text content)
    let steps : List Query :=
      [.define "mixed" (.iterator [text "a", .constant .none, text "b"]),
        .define "texts" (.iterator [text "a", text "b"]), .define "set" (.single (text "?")),
        .define "nothing" .sharedEmpty]
    let session := (initial.run (steps.map .query)).2
    let members := session.supply.remaining 4
    let uses : List Use := [.sift "nothing", .anyOf "globs", .test "set", .sift "set"]
    let after := (session.run (Use.steps "mixed" uses)).2
    session.names "mixed" = some (.iterator 4) ∧ session.names "texts" = some (.iterator 7) ∧
      members = [.datum 1 (.text "a"), .datum 2 .none, .datum 3 (.text "b")] ∧
      (∀ use ∈ uses, use.bound? ≠ some "mixed") ∧
      (session.takenAlong "mixed" 4 uses).flatten ++ after.supply.remaining 4 = members ∧
      (session.ask ((Use.sift "nothing").query "mixed")).2.supply.remaining 4 = members ∧
      (session.ask ((Use.anyOf "globs").query "mixed")).2.supply.remaining 7 =
        session.supply.remaining 7 ∧
      TakenThrough (fun member => ∃ holds, (PathSet.single 9 ⟨"?"⟩).test member.subject = .ok holds)
        members ((Use.sift "set").taken session.names members)
        ((session.ask ((Use.sift "set").query "mixed")).2.supply.remaining 4) ∧
      (session.ask (.define "union" (.unionOf [.named "texts", .named "texts"]))).1.answer =
        .ok (.finding (.value (.pathSet
          (.union 12 [.anyOf 10 [⟨"a"⟩, ⟨"b"⟩], .anyOf 11 []])))) := by
  intro text steps session members uses after
  have mixed : session.names "mixed" = some (.iterator 4) := rfl
  have texts : session.names "texts" = some (.iterator 7) := rfl
  have isSet : session.names "set" = some (.pathSet (.single 9 ⟨"?"⟩)) := rfl
  have isEmpty : session.names "nothing" = some (.pathSet (.empty sharedEmptyTag)) := rfl
  have held : members = [.datum 1 (.text "a"), .datum 2 .none, .datum 3 (.text "b")] := rfl
  have each : (session.supply.remaining 7).map Value.text? =
      [Glob.mk "a", ⟨"b"⟩].map fun glob => some glob.source := rfl
  have next : session.supply.next = 10 := rfl
  have kept : ∀ use ∈ uses, use.bound? ≠ some "mixed" := by decide
  clear_value session
  obtain ⟨-, -, sifts, unseen, -, frame, -, runs, -⟩ := uses_take_members_in_turn session mixed
  obtain ⟨-, -, -, -, -, -, -, -, twice⟩ := uses_take_members_in_turn session texts
  have union := (twice "union" [⟨"a"⟩, ⟨"b"⟩] each).1
  rw [next] at union
  exact ⟨mixed, texts, held, kept, runs uses kept, unseen "nothing" sharedEmptyTag isEmpty,
    frame (.anyOf "globs") 7 (by decide), (sifts "set" _ isSet rfl nofun).1,
    union⟩

end Session
end PathSets
