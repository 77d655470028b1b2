import PathSets.Proofs.Build.Making
import PathSets.Session.Basic

/-!
# Arguments that stand for sets

A factory makes the sets that its arguments stand for from left to right, each on the supply that
the arguments in front of it leave: an iterator that is given twice has no members left at its
second place.  The first argument that stands for no set decides.  A set stands for itself, so
nothing changes if the arguments are made into sets beforehand.
-/

namespace PathSets

namespace Supply

/-- The supply after the set of a value was made.  A new set has taken a tag, and if it was made of
the members of an iterator, none of these are left. -/
def afterSet (supply : Supply) (value : Value) : Supply :=
  if value.text?.isSome || value.isSequence then
    { supply.leaveTo value [] with next := supply.next + 1 }
  else supply

end Supply

namespace Value

theorem pathSet?_eq_some_iff {value : Value} {paths : PathSet Tag} :
    value.pathSet? = some paths ↔ value = .pathSet paths := by
  cases value <;> simp [pathSet?]

theorem eq_map_of_mapM_pathSet?_eq_some {members : List Value} {sets : List (PathSet Tag)}
    (all : members.mapM pathSet? = some sets) : members = sets.map .pathSet := by
  induction members generalizing sets with
  | nil =>
      obtain rfl : [] = sets := by simpa using all
      rfl
  | cons member rest ih =>
      rw [List.mapM_cons] at all
      obtain ⟨paths, isPaths, all⟩ := Option.bind_eq_some_iff.mp all
      obtain ⟨others, each, whole⟩ := Option.bind_eq_some_iff.mp all
      obtain rfl : paths :: others = sets := Option.some.inj whole
      rw [pathSet?_eq_some_iff.mp isPaths, ih each, List.map_cons]

/-- The members of a union are what it was made of. -/
theorem child?_unionOf (tag : Tag) (members : List Value) (index : Int) :
    (unionOf tag members).child? (.member index) = memberAt? members index := by
  unfold unionOf
  cases all : members.mapM pathSet? with
  | none => rfl
  | some sets =>
      rw [eq_map_of_mapM_pathSet?_eq_some all]
      simp only [child?, PathSet.child?, memberAt?, List.length_map, List.getElem?_map]
      split
      · rfl
      · split <;> rfl

/-- The parts of a difference are what it was made of. -/
theorem child?_differenceOf (tag : Tag) (included excluded : Value) :
    (differenceOf tag included excluded).child? .included = some included ∧
      (differenceOf tag included excluded).child? .excluded = some excluded := by
  unfold differenceOf
  split
  next first second isFirst isSecond =>
    rw [pathSet?_eq_some_iff.mp isFirst, pathSet?_eq_some_iff.mp isSecond]
    exact ⟨rfl, rfl⟩
  next => exact ⟨rfl, rfl⟩

end Value

namespace Build

/-- Which set a value stands for: nothing for the shared empty set, a set for itself, a text for a
new set of its one glob, and a sequence for a new set of the globs of its members, in order.  A new
set has the first tag that nothing has yet. -/
inductive StandsFor (supply : Supply) : Value → Value → Prop
  | nothing (tag : Tag) : StandsFor supply (.datum tag .none) (.pathSet sharedEmpty)
  | itself {set : Value} (isSet : set.isSet = true) : StandsFor supply set set
  | text (tag : Tag) (source : String) :
      StandsFor supply (.datum tag (.text source)) (.pathSet (.anyOf supply.next [⟨source⟩]))
  | sequence {value : Value} {globs : List Glob} (isSequence : value.isSequence = true)
      (each : (supply.membersOf value).map Value.text? =
        globs.map fun glob => some glob.source) :
      StandsFor supply value (.pathSet (.anyOf supply.next globs))

/-- Which sets values stand for, from left to right, and the supply that is left. -/
inductive StandForAll : Supply → List Value → List Value → Supply → Prop
  | nil (supply : Supply) : StandForAll supply [] [] supply
  | cons {supply after : Supply} {value set : Value} {values sets : List Value}
      (first : StandsFor supply value set)
      (rest : StandForAll (supply.afterSet value) values sets after) :
      StandForAll supply (value :: values) (set :: sets) after

variable {supply after : Supply} {value set : Value} {values sets : List Value}

/-! ## One argument -/

theorem outcome_toSet_of_isSequence (isSequence : value.isSequence = true) :
    ((toSet value).run supply).outcome = .ok set ↔
      ∃ globs, set = .pathSet (.anyOf supply.next globs) ∧
        (supply.membersOf value).map Value.text? = globs.map fun glob => some glob.source := by
  rw [run_toSet_of_isSequence isSequence, globSet_eq_ok_iff]

theorem standsFor_of_isSequence (isSequence : value.isSequence = true)
    (made : ((toSet value).run supply).outcome = .ok set) : StandsFor supply value set := by
  obtain ⟨globs, rfl, each⟩ := (outcome_toSet_of_isSequence isSequence).mp made
  exact .sequence isSequence each

theorem toSet_of_isSet {audience : Audience} (isSet : set.isSet = true) :
    toSet set = (pure set : Build audience Value) := by
  cases set with
  | pathSet | looseUnion | looseDifference => rfl
  | _ => cases isSet

theorem afterSet_of_isSet (isSet : set.isSet = true) : supply.afterSet set = supply := by
  cases set with
  | pathSet | looseUnion | looseDifference => rfl
  | _ => cases isSet

/-- The set of a value is made exactly if the value stands for it. -/
theorem outcome_toSet_eq_ok_iff :
    ((toSet value).run supply).outcome = .ok set ↔ StandsFor supply value set := by
  constructor
  · intro made
    cases value with
    | datum tag held =>
        cases held with
        | none =>
            obtain rfl : Value.pathSet sharedEmpty = set := Except.ok.inj made
            exact .nothing tag
        | text source =>
            obtain rfl : .pathSet (.anyOf supply.next [⟨source⟩]) = set := Except.ok.inj made
            exact .text tag source
        | byteArray | range => exact standsFor_of_isSequence rfl made
        | bool | int | float | level | bytes => cases made
    | list | tuple | set | iterator | collection => exact standsFor_of_isSequence rfl made
    | dict | object => cases made
    | pathSet | looseUnion | looseDifference =>
        obtain rfl := Except.ok.inj made
        exact .itself rfl
  · intro stands
    cases stands with
    | nothing | text => rfl
    | itself isSet => rw [toSet_of_isSet isSet, run_pure]
    | sequence isSequence each =>
        exact (outcome_toSet_of_isSequence isSequence).mpr ⟨_, rfl, each⟩

theorem supply_toSet_of_standsFor (stands : StandsFor supply value set) :
    ((toSet value).run supply).supply = supply.afterSet value := by
  cases stands with
  | nothing | text => rfl
  | itself isSet => rw [toSet_of_isSet isSet, run_pure, afterSet_of_isSet isSet]
  | @sequence _ globs isSequence each =>
      have made : globSet supply.next (supply.membersOf value) =
          .ok (.pathSet (.anyOf supply.next globs)) := globSet_eq_ok_iff.mpr ⟨globs, rfl, each⟩
      rw [run_toSet_of_isSequence isSequence, made, Supply.afterSet, isSequence, Bool.or_true,
        if_pos rfl, Supply.tagged, Supply.leaveTo_next]

/-- What is done with the set of a value, and on which supply. -/
theorem exists_outcome_toSet_iff (holds : Value → Supply → Prop) :
    (∃ set, ((toSet value).run supply).outcome = .ok set ∧
        holds set ((toSet value).run supply).supply) ↔
      ∃ set, StandsFor supply value set ∧ holds set (supply.afterSet value) := by
  constructor
  · rintro ⟨set, made, holdsSet⟩
    have stands := outcome_toSet_eq_ok_iff.mp made
    rw [supply_toSet_of_standsFor stands] at holdsSet
    exact ⟨set, stands, holdsSet⟩
  · rintro ⟨set, stands, holdsSet⟩
    rw [← supply_toSet_of_standsFor stands] at holdsSet
    exact ⟨set, outcome_toSet_eq_ok_iff.mpr stands, holdsSet⟩

theorem outcome_toSet_bind_eq_ok_iff {β : Type} {next : Value → Build .scribe β} {result : β} :
    ((toSet value >>= next).run supply).outcome = .ok result ↔
      ∃ set, StandsFor supply value set ∧
        ((next set).run (supply.afterSet value)).outcome = .ok result := by
  rw [outcome_bind_eq_ok_iff]
  exact exists_outcome_toSet_iff fun set after => ((next set).run after).outcome = .ok result

theorem outcome_toSet_bind_eq_error_iff {β : Type} {next : Value → Build .scribe β}
    {fault : Fault} :
    ((toSet value >>= next).run supply).outcome = .error fault ↔
      ((toSet value).run supply).outcome = .error fault ∨
        ∃ set, StandsFor supply value set ∧
          ((next set).run (supply.afterSet value)).outcome = .error fault := by
  rw [outcome_bind_eq_error_iff]
  exact or_congr_right
    (exists_outcome_toSet_iff fun set after => ((next set).run after).outcome = .error fault)

theorem supply_toSet_bind_of_standsFor {β : Type} {next : Value → Build .scribe β}
    (stands : StandsFor supply value set) :
    ((toSet value >>= next).run supply).supply =
      ((next set).run (supply.afterSet value)).supply := by
  rw [supply_bind_of_ok (outcome_toSet_eq_ok_iff.mpr stands), supply_toSet_of_standsFor stands]

/-! ## Arguments from left to right -/

theorem run_toSets_of_standForAll (stand : StandForAll supply values sets after) :
    ((toSets values).run supply).outcome = .ok sets ∧
      ((toSets values).run supply).supply = after := by
  induction stand with
  | nil => exact ⟨rfl, rfl⟩
  | cons first rest ih =>
      obtain ⟨made, left⟩ := ih
      constructor
      · exact outcome_toSet_bind_eq_ok_iff.mpr
          ⟨_, first, outcome_bind_eq_ok_iff.mpr ⟨_, made, rfl⟩⟩
      · rw [toSets, supply_toSet_bind_of_standsFor first, supply_bind_of_ok made]
        exact left

theorem standForAll_of_outcome_toSets (made : ((toSets values).run supply).outcome = .ok sets) :
    StandForAll supply values sets ((toSets values).run supply).supply := by
  induction values generalizing supply sets with
  | nil =>
      obtain rfl : [] = sets := Except.ok.inj made
      exact .nil supply
  | cons value rest ih =>
      obtain ⟨set, first, made⟩ := outcome_toSet_bind_eq_ok_iff.mp made
      obtain ⟨others, madeRest, whole⟩ := outcome_bind_eq_ok_iff.mp made
      obtain rfl : set :: others = sets := Except.ok.inj whole
      rw [toSets, supply_toSet_bind_of_standsFor first, supply_bind_of_ok madeRest]
      exact .cons first (ih madeRest)

/-- The first argument that stands for no set decides, on the supply that those in front of it
leave. -/
theorem outcome_toSets_eq_error_iff {fault : Fault} :
    ((toSets values).run supply).outcome = .error fault ↔
      ∃ front value rest sets between, values = front ++ value :: rest ∧
        StandForAll supply front sets between ∧
          ((toSet value).run between).outcome = .error fault := by
  induction values generalizing supply with
  | nil => simp [toSets]
  | cons value rest ih =>
      have last (set : Value) (between : Supply) :
          ((do return set :: (← toSets rest)).run between).outcome = .error fault ↔
            ((toSets rest).run between).outcome = .error fault := by
        simp only [outcome_bind_eq_error_iff, run_pure, reduceCtorEq, and_false, exists_false,
          or_false]
      simp only [toSets, outcome_toSet_bind_eq_error_iff, last, ih]
      constructor
      · rintro (failed | ⟨set, first, front, other, behind, sets, between, rfl, stand, failed⟩)
        · exact ⟨[], value, rest, [], supply, rfl, .nil supply, failed⟩
        · exact ⟨value :: front, other, behind, set :: sets, between, rfl, .cons first stand,
            failed⟩
      · rintro ⟨_, other, behind, _, _, equal, _ | ⟨first, stand⟩, failed⟩
        · obtain ⟨rfl, rfl⟩ := List.cons.inj equal
          exact Or.inl failed
        · obtain ⟨rfl, rfl⟩ := List.cons.inj equal
          exact Or.inr ⟨_, first, _, _, _, _, _, rfl, stand, failed⟩

theorem outcome_unionOf_eq_ok_iff :
    ((unionOf values).run supply).outcome = .ok set ↔
      ∃ sets after, StandForAll supply values sets after ∧ set = .unionOf after.next sets := by
  rw [unionOf, run_tagged, map_eq_ok_iff]
  constructor
  · rintro ⟨sets, made, rfl⟩
    exact ⟨sets, _, standForAll_of_outcome_toSets made, rfl⟩
  · rintro ⟨sets, after, stand, rfl⟩
    obtain ⟨made, rfl⟩ := run_toSets_of_standForAll stand
    exact ⟨sets, made, rfl⟩

theorem outcome_unionOf_eq_error_iff {fault : Fault} :
    ((unionOf values).run supply).outcome = .error fault ↔
      ((toSets values).run supply).outcome = .error fault := by
  rw [unionOf, run_tagged, map_eq_error_iff]

theorem outcome_differenceOf_eq_ok_iff {included excluded : Value} :
    ((differenceOf included excluded).run supply).outcome = .ok set ↔
      ∃ first second after, StandForAll supply [included, excluded] [first, second] after ∧
        set = .differenceOf after.next first second := by
  simp only [differenceOf, outcome_toSet_bind_eq_ok_iff]
  constructor
  · rintro ⟨first, standsFirst, second, standsSecond, made⟩
    exact ⟨first, second, _, .cons standsFirst (.cons standsSecond (.nil _)),
      (Except.ok.inj made).symm⟩
  · rintro ⟨first, second, _, _ | ⟨standsFirst, _ | ⟨standsSecond, ⟨⟩⟩⟩, rfl⟩
    exact ⟨first, standsFirst, second, standsSecond, rfl⟩

theorem outcome_differenceOf_eq_error_iff {included excluded : Value} {fault : Fault} :
    ((differenceOf included excluded).run supply).outcome = .error fault ↔
      ((toSets [included, excluded]).run supply).outcome = .error fault := by
  simp only [differenceOf, toSets, outcome_bind_eq_error_iff, run_fresh, run_pure, reduceCtorEq,
    and_false, exists_false, or_false]

/-! ## Sets as arguments -/

section

variable {audience : Audience} {β : Type}

/-- What follows the gathering of a set meets a set. -/
theorem gather_bind_congr (members : List Value) {next other : Value → Build audience β}
    (agree : ∀ set, set.isSet = true → next set = other set) :
    gather members >>= next = gather members >>= other := by
  simp only [gather, bind_assoc, pure_bind, agree (.pathSet _) rfl]

/-- What follows the making of a set meets a set. -/
theorem toSet_bind_congr (value : Value) {next other : Value → Build audience β}
    (agree : ∀ set, set.isSet = true → next set = other set) :
    toSet value >>= next = toSet value >>= other := by
  have gathered (members : List Value) := gather_bind_congr members agree
  have taken : (membersOf value >>= gather) >>= next = (membersOf value >>= gather) >>= other := by
    simp only [bind_assoc, gathered]
  cases value with
  | datum tag held =>
      cases held with
      | none => exact agree _ rfl
      | text content => exact gathered _
      | byteArray | range => exact taken
      | bool | int | float | level | bytes => rfl
  | list | tuple | set | iterator | collection => exact taken
  | dict | object => rfl
  | pathSet | looseUnion | looseDifference => exact agree _ rfl

theorem toSets_bind_congr (values : List Value) {next other : List Value → Build audience β}
    (agree : ∀ sets, (∀ set ∈ sets, set.isSet = true) → next sets = other sets) :
    toSets values >>= next = toSets values >>= other := by
  induction values generalizing next other with
  | nil => exact agree [] nofun
  | cons value rest ih =>
      simp only [toSets, bind_assoc, pure_bind]
      refine toSet_bind_congr value fun set isSet => ih fun sets areSets => ?_
      exact agree (set :: sets) (List.forall_mem_cons.mpr ⟨isSet, areSets⟩)

theorem toSets_of_areSets (areSets : ∀ set ∈ sets, set.isSet = true) :
    toSets sets = (pure sets : Build audience (List Value)) := by
  induction sets with
  | nil => rfl
  | cons set rest ih =>
      obtain ⟨isSet, others⟩ := List.forall_mem_cons.mp areSets
      simp only [toSets, toSet_of_isSet isSet, ih others, pure_bind]

theorem toSets_eq_mapM (values : List Value) :
    toSets values = (values.mapM toSet : Build audience (List Value)) := by
  induction values with
  | nil => rfl
  | cons value rest ih => rw [toSets, ih, List.mapM_cons]

theorem toSet_bind_toSet (value : Value) :
    toSet value >>= toSet = (toSet value : Build audience Value) := by
  rw [toSet_bind_congr value fun set isSet => toSet_of_isSet isSet, bind_pure]

theorem toSets_bind_unionOf (values : List Value) :
    toSets values >>= unionOf = (unionOf values : Build audience Value) := by
  refine toSets_bind_congr values fun sets areSets => ?_
  simp only [unionOf, toSets_of_areSets areSets, pure_bind]

theorem toSet_bind_differenceOf (included excluded : Value) :
    (do
      let first ← toSet included
      let second ← toSet excluded
      differenceOf first second) = (differenceOf included excluded : Build audience Value) := by
  refine toSet_bind_congr included fun first isFirst =>
    toSet_bind_congr excluded fun second isSecond => ?_
  simp only [differenceOf, toSet_of_isSet isFirst, toSet_of_isSet isSecond, pure_bind]

end

/-- The arguments of a union are made into sets from left to right, and the first one that stands
for no set decides, with its own fault; if there is none, the union has one member for each
argument: the very set that was given, the shared empty set for nothing, and a new set of globs for
a text or a sequence.  A difference does the same with its two arguments.  Making a set of a set
gives the very set and has no effect at all, so a union or a difference of arguments that are made
into sets beforehand is the same build, with the same result or fault and the same effects. -/
theorem unionOf_and_differenceOf_normalize (audience : Audience) (supply : Supply)
    (values : List Value) (included excluded : Value) :
    (∀ fault, ((unionOf values).run supply).outcome = .error fault ↔
        ∃ front value rest sets between, values = front ++ value :: rest ∧
          StandForAll supply front sets between ∧
            ((toSet value).run between).outcome = .error fault) ∧
      (∀ set, ((unionOf values).run supply).outcome = .ok set ↔
        ∃ sets after, StandForAll supply values sets after ∧ set = .unionOf after.next sets ∧
          ∀ index, set.child? (.member index) = memberAt? sets index) ∧
      (∀ fault, ((differenceOf included excluded).run supply).outcome = .error fault ↔
        ∃ front value rest sets between, [included, excluded] = front ++ value :: rest ∧
          StandForAll supply front sets between ∧
            ((toSet value).run between).outcome = .error fault) ∧
      (∀ set, ((differenceOf included excluded).run supply).outcome = .ok set ↔
        ∃ first second after, StandForAll supply [included, excluded] [first, second] after ∧
          set = .differenceOf after.next first second ∧
          set.child? .included = some first ∧ set.child? .excluded = some second) ∧
      (∀ value set : Value, ((toSet value).run supply).outcome = .ok set ↔
        StandsFor supply value set) ∧
      (∀ value : Value, toSet value >>= toSet = (toSet value : Build audience Value)) ∧
      (∀ (session : Session) (set : Value), set.isSet = true →
        session.perform (toSet set) = (.ok set, [], session)) ∧
      values.mapM toSet >>= unionOf = (unionOf values : Build audience Value) ∧
      (do
        let first ← toSet included
        let second ← toSet excluded
        differenceOf first second) = (differenceOf included excluded : Build audience Value) := by
  refine ⟨fun fault => ?_, fun set => ?_, fun fault => ?_, fun set => ?_,
    fun value set => outcome_toSet_eq_ok_iff, toSet_bind_toSet, fun session set isSet => ?_, ?_,
    toSet_bind_differenceOf included excluded⟩
  · rw [outcome_unionOf_eq_error_iff, outcome_toSets_eq_error_iff]
  · rw [outcome_unionOf_eq_ok_iff]
    constructor
    · rintro ⟨sets, after, stand, rfl⟩
      exact ⟨sets, after, stand, rfl, Value.child?_unionOf after.next sets⟩
    · rintro ⟨sets, after, stand, rfl, -⟩
      exact ⟨sets, after, stand, rfl⟩
  · rw [outcome_differenceOf_eq_error_iff, outcome_toSets_eq_error_iff]
  · rw [outcome_differenceOf_eq_ok_iff]
    constructor
    · rintro ⟨first, second, after, stand, rfl⟩
      exact ⟨first, second, after, stand, rfl, Value.child?_differenceOf after.next first second⟩
    · rintro ⟨first, second, after, stand, rfl, -⟩
      exact ⟨first, second, after, stand, rfl⟩
  · rw [toSet_of_isSet isSet]
    rfl
  · rw [← toSets_eq_mapM, toSets_bind_unionOf]

/-- A union of a text, a set and nothing, and the effects of making a set of a set. -/
theorem unionOf_text_and_set_and_nothing :
    let values : List Value := [.datum 7 (.text "*"), .pathSet (.blank 8), .datum 9 .none]
    ((unionOf values).run .initial).outcome =
        .ok (.pathSet (.union 2 [.anyOf 1 [⟨"*"⟩], .blank 8, sharedEmpty])) ∧
      Session.initial.perform (toSet (.pathSet (.blank 8))) =
        (.ok (.pathSet (.blank 8)), [], .initial) := by
  intro values
  obtain ⟨-, union_iff, -, -, -, -, unchanged, -⟩ :=
    unionOf_and_differenceOf_normalize .log .initial values (.datum 7 .none) (.datum 9 .none)
  let sets : List Value :=
    [.pathSet (.anyOf 1 [⟨"*"⟩]), .pathSet (.blank 8), .pathSet sharedEmpty]
  have stand : StandForAll .initial values sets { Supply.initial with next := 2 } :=
    .cons (.text 7 "*") (.cons (.itself rfl) (.cons (.nothing 9) (.nil _)))
  exact ⟨(union_iff _).mpr ⟨sets, _, stand, rfl, fun index => Value.child?_unionOf 2 sets index⟩,
    unchanged .initial _ rfl⟩

end Build
end PathSets
