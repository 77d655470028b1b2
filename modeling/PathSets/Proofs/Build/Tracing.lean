import PathSets.Proofs.Build.Visiting

/-!
# What builds announce

The notices of one build after another are those of the first, and then, if it succeeds, those of
the second on the supply that the first one leaves.  Most builds are silent: only compiling a glob
and gathering the members of a set announce anything.  From this the notices of an expression are
read off its parts: they are its trace.
-/

namespace PathSets

variable {α β : Type}

namespace Notice

theorem following_of_ok {build : Build .scribe α} {supply after : Supply} {value : α}
    {announced : List Notice} (ran : build.run supply = ⟨.ok value, after, announced⟩)
    (notices : Supply → α → List Notice) :
    following build supply notices = notices after value := by
  rw [following, ran]

theorem following_of_error {build : Build .scribe α} {supply after : Supply} {fault : Fault}
    {announced : List Notice} (ran : build.run supply = ⟨.error fault, after, announced⟩)
    (notices : Supply → α → List Notice) : following build supply notices = [] := by
  rw [following, ran]

@[simp] theorem following_nil (build : Build .scribe α) (supply : Supply) :
    following build supply (fun _ _ => []) = [] := by
  unfold following
  cases (build.run supply).outcome <;> rfl

theorem following_bind (first : Build .scribe α) (second : α → Build .scribe β) (supply : Supply)
    (notices : Supply → β → List Notice) :
    following (first >>= second) supply notices =
      following first supply fun supply value => following (second value) supply notices := by
  rcases ran : first.run supply with ⟨fault | value, after, announced⟩
  · rw [following_of_error ran, following_of_error (Build.run_bind_of_error ran)]
  · rw [following_of_ok ran, following, Build.run_bind_of_ok ran]
    rfl

@[simp] theorem ofMembers_nil : ofMembers [] = [] := rfl

theorem ofMembers_cons_of_text {member : Value} {source : String}
    (isText : member.text? = some source) (rest : List Value) :
    ofMembers (member :: rest) = .compiled ⟨source⟩ :: ofMembers rest := by
  simp [ofMembers, ofSource, isText]

theorem ofMembers_cons_of_not_text {member : Value} (notText : member.text? = none)
    (rest : List Value) : ofMembers (member :: rest) = [] := by
  simp [ofMembers, notText]

end Notice

namespace Build

open Notice

theorem notices_bind (first : Build .scribe α) (second : α → Build .scribe β) (supply : Supply) :
    ((first >>= second).run supply).notices =
      (first.run supply).notices ++
        following first supply fun supply value => ((second value).run supply).notices := by
  rcases ran : first.run supply with ⟨fault | value, after, announced⟩
  · rw [run_bind_of_error ran, following_of_error ran, List.append_nil]
  · rw [run_bind_of_ok ran, following_of_ok ran]

/-! ## Silent builds -/

/-- Whether a build announces nothing, on any supply. -/
def Silent (build : Build .scribe α) : Prop :=
  ∀ supply, (build.run supply).notices = []

theorem silent_pure (value : α) : Silent (pure value : Build .scribe α) := fun _ => rfl

theorem silent_fail (fault : Fault) : Silent (fail fault : Build .scribe α) := fun _ => rfl

theorem silent_fresh : Silent fresh := fun _ => rfl

theorem silent_leave (iterator : Tag) (items : List Value) : Silent (leave iterator items) :=
  fun _ => rfl

theorem silent_remaining (iterator : Tag) : Silent (remaining iterator) := fun _ => rfl

theorem silent_ofExcept (outcome : Except Fault α) : Silent (ofExcept outcome) := by
  cases outcome <;> exact fun _ => rfl

theorem Silent.bind {first : Build .scribe α} {second : α → Build .scribe β} (silent : Silent first)
    (each : ∀ value, Silent (second value)) : Silent (first >>= second) := by
  intro supply
  have continued : ∀ after value, ((second value).run after).notices = [] :=
    fun after value => each value after
  simp only [notices_bind, silent supply, continued, following_nil, List.append_nil]

/-- A silent end adds no notices. -/
theorem notices_bind_of_silent (first : Build .scribe α) {second : α → Build .scribe β}
    (silent : ∀ value, Silent (second value)) (supply : Supply) :
    ((first >>= second).run supply).notices = (first.run supply).notices := by
  have continued : ∀ after value, ((second value).run after).notices = [] :=
    fun after value => silent value after
  simp only [notices_bind, continued, following_nil, List.append_nil]

/-- Giving a tag to what was made announces nothing. -/
theorem silent_tagged (make : Tag → α) : Silent (do return make (← fresh)) :=
  silent_fresh.bind fun tag => silent_pure (make tag)

theorem silent_membersOf (value : Value) : Silent (membersOf value) := by
  unfold membersOf
  cases value.members with
  | absent => exact silent_fail _
  | fixed items => exact silent_pure items
  | below tag bound => exact silent_pure _
  | oneShot iterator =>
      exact (silent_remaining iterator).bind fun items =>
        (silent_leave iterator []).bind fun _ => silent_pure items

theorem silent_requireKey (value : Value) : Silent (requireKey value) :=
  (silent_ofExcept _).bind fun _ => silent_pure _

theorem silent_requireKeys (values : List Value) : Silent (requireKeys values) :=
  (silent_ofExcept _).bind fun _ => silent_pure _

theorem silent_visitList {release : List Value → Build .scribe Unit}
    {act : Nat → Value → Build .scribe β} (releases : ∀ items, Silent (release items))
    (acts : ∀ index item, Silent (act index item)) (index : Nat) (items : List Value) :
    Silent (visitList release act index items) := by
  induction items generalizing index with
  | nil => exact silent_pure _
  | cons item rest ih =>
      rw [visitList]
      exact (releases rest).bind fun _ => (acts index item).bind fun _ =>
        (ih (index + 1)).bind fun _ => silent_pure _

theorem silent_visit {act : Nat → Value → Build .scribe β}
    (acts : ∀ index item, Silent (act index item)) (value : Value) : Silent (visit value act) := by
  unfold visit
  cases value.members with
  | absent => exact silent_fail _
  | fixed items => exact silent_visitList (fun _ => silent_pure _) acts 0 items
  | below tag bound =>
      simp only [visitFrom_eq_visitList]
      exact silent_visitList (fun _ => silent_pure _) acts 0 _
  | oneShot iterator =>
      exact (silent_remaining iterator).bind fun items =>
        silent_visitList (silent_leave iterator) acts 0 items

/-! ## Making sets -/

theorem run_compile (source : String) (supply : Supply) :
    (compile source).run supply = ⟨.ok ⟨source⟩, supply, [.compiled ⟨source⟩]⟩ := rfl

/-- The glob of a member, counted from the index. -/
def memberGlob (index : Nat) (member : Value) : Except Fault Glob :=
  match member.text? with
  | some source => .ok ⟨source⟩
  | none => .error (.memberNotText index member.kind)

/-- Compiling a member passes texts, and announces the glob of each. -/
theorem examines_compileMember :
    Examines compileMember memberGlob (·.text?.isSome) ofSource where
  of_passes {member} passed index supply := by
    obtain ⟨source, isText⟩ := Option.isSome_iff_exists.mp passed
    refine ⟨⟨source⟩, by simp only [memberGlob, isText], ?_⟩
    simp only [compileMember, isText, run_compile, ofSource]
    rfl
  of_refuses {member} refused index supply := by
    rw [Option.isSome_eq_false_iff, Option.isNone_iff_eq_none] at refused
    refine ⟨.memberNotText index member.kind, by simp only [memberGlob, refused], ?_⟩
    simp only [compileMember, refused, run_fail]

theorem notices_compileMembers (index : Nat) (members : List Value) (supply : Supply) :
    ((visitList (fun _ => pure ()) compileMember index members).run supply).notices =
      ofMembers members := by
  rw [run_visitList_fixed examines_compileMember]
  rfl

theorem notices_visit_compileMember (value : Value) (supply : Supply) :
    ((visit value compileMember).run supply).notices = ofMembers (supply.membersOf value) := by
  by_cases absent : value.members = .absent
  · simp only [visit, Supply.membersOf, absent, run_fail, ofMembers_nil]
  · rw [run_visit examines_compileMember absent]
    rfl

theorem notices_single (source : Value) (supply : Supply) :
    ((single source).run supply).notices = ofSource source := by
  rw [single, globText, ofSource]
  cases source.text? with
  | none => rfl
  | some content =>
      exact notices_bind_of_silent (compile content)
        (fun glob => silent_tagged fun tag => Value.pathSet (.single tag glob)) supply

theorem notices_anyOf (sources : Value) (supply : Supply) :
    ((anyOf sources).run supply).notices = ofMembers (supply.membersOf sources) := by
  rw [anyOf, notices_bind_of_silent, notices_visit_compileMember]
  exact fun _ => silent_tagged _

theorem silent_union (sets : Value) : Silent (union sets) :=
  (silent_membersOf sets).bind fun _ => silent_tagged _

theorem silent_difference (included excluded : Value) : Silent (difference included excluded) :=
  silent_tagged _

theorem notices_gather (members : List Value) (supply : Supply) :
    ((gather members).run supply).notices = .gathering members :: ofMembers members := by
  rw [gather, run_bind_of_ok (run_announce (.gathering members) supply),
    notices_bind_of_silent _ fun _ => silent_tagged _,
    notices_compileMembers]
  rfl

theorem notices_membersOf_gather (value : Value) (iterable : value.members ≠ .absent)
    (supply : Supply) :
    ((membersOf value >>= gather).run supply).notices =
      .gathering (supply.membersOf value) :: ofMembers (supply.membersOf value) := by
  rw [run_bind_of_ok (run_membersOf iterable supply), notices_gather, List.nil_append]

theorem notices_toSet (value : Value) (supply : Supply) :
    ((toSet value).run supply).notices = ofSetLike supply value := by
  cases value with
  | datum tag held =>
      cases held with
      | text content => exact notices_gather [.datum tag (.text content)] supply
      | byteArray data => exact notices_membersOf_gather (.datum tag (.byteArray data)) nofun supply
      | range bound => exact notices_membersOf_gather (.datum tag (.range bound)) nofun supply
      | none | bool | int | float | level | bytes => rfl
  | list tag items => exact notices_membersOf_gather (.list tag items) nofun supply
  | tuple tag items => exact notices_membersOf_gather (.tuple tag items) nofun supply
  | set tag items => exact notices_membersOf_gather (.set tag items) nofun supply
  | iterator tag => exact notices_membersOf_gather (.iterator tag) nofun supply
  | collection tag species shown items =>
      exact notices_membersOf_gather (.collection tag species shown items) nofun supply
  | dict | object | pathSet | looseUnion | looseDifference => rfl

theorem notices_toSets (values : List Value) (supply : Supply) :
    ((toSets values).run supply).notices = ofSetLikes supply values := by
  induction values generalizing supply with
  | nil => rfl
  | cons value rest ih =>
      rw [toSets, notices_bind, notices_toSet, ofSetLikes]
      simp only [notices_bind_of_silent _ fun _ => silent_pure _, ih]

theorem notices_unionOf (values : List Value) (supply : Supply) :
    ((unionOf values).run supply).notices = ofSetLikes supply values := by
  rw [unionOf, notices_bind_of_silent _ fun _ => silent_tagged _,
    notices_toSets]

theorem notices_differenceOf (included excluded : Value) (supply : Supply) :
    ((differenceOf included excluded).run supply).notices =
      ofSetLikes supply [included, excluded] := by
  simp only [differenceOf, notices_bind, notices_toSet, ofSetLikes, run_fresh, run_pure,
    following_nil, List.append_nil]

end Build

/-! ## Expressions -/

namespace Expression

open Build Notice

mutual

/-- Evaluating an expression announces its trace. -/
theorem notices_evaluate (names : Names) : (expression : Expression) → (supply : Supply) →
    ((expression.evaluate names).run supply).notices = expression.trace names supply
  | .constant _, _ | .sharedEmpty, _ | .object _ _, _ | .newEmpty, _ | .newBlank, _ => rfl
  | .named name, supply => by
      rw [evaluate, trace]
      cases names name <;> rfl
  | .list items, supply | .tuple items, supply | .collection _ _ items, supply => by
      rw [evaluate, trace, notices_bind_of_silent, notices_evaluateAll]
      exact fun _ => silent_tagged _
  | .set _ items, supply => by
      rw [evaluate, trace, notices_bind_of_silent, notices_evaluateAll]
      exact fun members => (silent_requireKeys members).bind fun _ => silent_tagged _
  | .dict entries, supply => by
      rw [evaluate, trace, notices_bind_of_silent, notices_evaluateEntries]
      exact fun _ => silent_tagged _
  | .iterator items, supply => by
      rw [evaluate, trace, notices_bind_of_silent, notices_evaluateAll]
      exact fun members => silent_fresh.bind fun tag =>
        (silent_leave tag members).bind fun _ => silent_pure _
  | .single source, supply => by
      simp only [evaluate, trace, notices_bind, notices_evaluate, notices_single]
  | .anyOf sources, supply => by
      simp only [evaluate, trace, notices_bind, notices_evaluate, notices_anyOf]
  | .union sets, supply => by
      rw [evaluate, trace, notices_bind_of_silent, notices_evaluate]
      exact silent_union
  | .difference included excluded, supply => by
      simp only [evaluate, trace, notices_bind, notices_evaluate,
        notices_bind_of_silent _ (silent_difference _)]
  | .toSet value, supply => by
      simp only [evaluate, trace, notices_bind, notices_evaluate, notices_toSet]
  | .unionOf values, supply => by
      simp only [evaluate, trace, notices_bind, notices_evaluateAll, notices_unionOf]
  | .differenceOf included excluded, supply => by
      simp only [evaluate, trace, notices_bind, notices_evaluate, notices_differenceOf]

theorem notices_evaluateAll (names : Names) : (expressions : List Expression) →
    (supply : Supply) →
    ((evaluateAll names expressions).run supply).notices = traceAll names supply expressions
  | [], _ => rfl
  | expression :: rest, supply => by
      simp only [evaluateAll, traceAll, notices_bind, notices_evaluate, notices_evaluateAll,
        run_pure, following_nil, List.append_nil]

theorem notices_evaluateEntries (names : Names) : (entries : List (Expression × Expression)) →
    (supply : Supply) →
    ((evaluateEntries names entries).run supply).notices = traceEntries names supply entries
  | [], _ => rfl
  | (key, value) :: rest, supply => by
      simp only [evaluateEntries, traceEntries, notices_bind, following_bind, notices_evaluate,
        notices_evaluateEntries, silent_requireKey _ _, run_pure, following_nil, List.append_nil,
        List.nil_append]

end

/-- All members of a list are announced with the set to be, but only the globs in front of the first
member that is no text are compiled. -/
example (names : Names) :
    (toSet (.list [.constant (.text "a"), .constant .none, .constant (.text "b")])).trace names
        .initial =
      [.gathering [.datum 1 (.text "a"), .datum 2 .none, .datum 3 (.text "b")],
        .compiled ⟨"a"⟩] :=
  rfl

end Expression
end PathSets
