import PathSets.Proofs.Session.Handles

/-!
# Asking for one handle again

Asking for the handle of a name gives the global handle as long as it has the name, and it stays
global until a step displaces it: by making another handle global, or none, by asking for the handle
of another name, or by announcing something while its channel is not the library's.
-/

namespace PathSets

/-- What holds wherever a list is split holds in front of its first member, and wherever the rest
is split. -/
theorem forall_split_cons_iff {α : Type} {holds : List α → α → Prop} {first : α}
    {others : List α} :
    (∀ front member rest, first :: others = front ++ member :: rest → holds front member) ↔
      holds [] first ∧
        ∀ front member rest, others = front ++ member :: rest → holds (first :: front) member := by
  constructor
  · intro each
    exact ⟨each [] first others rfl, fun front member rest split =>
      each (first :: front) member rest (congrArg (first :: ·) split)⟩
  · rintro ⟨head, later⟩ front member rest split
    cases front with
    | nil =>
        cases split
        exact head
    | cons _ front =>
        cases split
        exact later front member rest rfl

theorem forall_split_nil {α : Type} {holds : List α → α → Prop} (front : List α) (member : α)
    (rest : List α) (split : [] = front ++ member :: rest) : holds front member := by
  simp at split

namespace Session

variable {session : Session} {handle : Handle}

/-! ## What the expressions of a step do -/

theorem prepared_of_silent {step : Step} (silent : session.announced step = []) :
    session.prepared step = session.log := by
  rw [prepared, silent]
  rfl

/-- Announcing something leaves the library's handle as the global one. -/
theorem holds_prepared {step : Step} (loud : session.announced step ≠ []) :
    (session.prepared step).Holds libraryChannel := by
  rw [prepared, Log.announceAll_eq, if_neg loud]
  exact Log.holds_acquire _ _

theorem prepared_of_holds (holds : session.log.Holds libraryChannel) (step : Step) :
    session.prepared step = session.log := by
  rw [prepared, Log.announceAll_eq, Log.acquire_of_holds holds, ite_self]

/-- The expressions of a step leave a global handle in place, unless they announce something and
its channel is not the library's. -/
theorem current_prepared_iff (step : Step) (current : session.log.current = some handle) :
    (session.prepared step).current = some handle ↔
      ¬(handle.name ≠ libraryChannel ∧ session.announced step ≠ []) := by
  by_cases silent : session.announced step = []
  · simp [prepared_of_silent silent, current, silent]
  by_cases library : handle.name = libraryChannel
  · have holds : session.log.Holds libraryChannel := library ▸ Log.holds_of_current current
    simp [prepared_of_holds holds, current, library]
  · refine iff_of_false (fun kept => library ?_) (fun quiet => quiet ⟨library, silent⟩)
    have holds := holds_prepared silent
    rw [Log.Holds, kept] at holds
    exact Option.some.inj holds

end Session

/-! ## What a step does -/

/-- A step on the log leaves the global handle in place, unless it sets it or asks for one. -/
theorem LogStep.Effect.current_eq {session : Session} {log after : Log} {step : LogStep}
    {answer : Except Fault Answer} (effect : step.Effect session log answer after)
    (sets : ∀ bound, step ≠ .setCurrent bound) (asks : ∀ name bound, step ≠ .acquire name bound) :
    after.current = log.current := by
  cases effect with
  | failed | opened | leveled | emitted | inspected | inspectedCurrent => rfl
  | acquired => exact (asks _ _ rfl).elim
  | dismissed => exact (sets _ rfl).elim
  | changed => exact (sets _ rfl).elim

/-- The own work of a step puts something else in the place of a global handle: another handle, or
none, or the handle of another name. -/
def LogStep.Displaces (session : Session) (handle : Handle) : LogStep → Prop
  | .setCurrent none => True
  | .setCurrent (some bound) => ∃ other, session.handle? bound = .ok other ∧ other ≠ handle
  | .acquire name bound =>
      ∃ other, session.obtained? (.acquire name bound) = some other ∧ other.name ≠ handle.name
  | _ => False

namespace Session

/-- A step puts something else in the place of a global handle, by its own work or by announcing
something while the handle is not the library's. -/
def Displaces (session : Session) (handle : Handle) (step : Step) : Prop :=
  (handle.name ≠ libraryChannel ∧ session.announced step ≠ []) ∨
    match step with
    | .query _ => False
    | .log own => own.Displaces session handle

variable {session : Session} {handle : Handle}

/-- The handle that a step asks for was the global one, or it has a tag that no handle had. -/
theorem current_or_next_le_tag {name : Option Expression} {bound : Option String}
    (got : session.obtained? (.acquire name bound) = some handle) :
    (session.prepared (.log (.acquire name bound))).current = some handle ∨
      ¬(session.prepared (.log (.acquire name bound))).Holds handle.name ∧
        session.log.next ≤ handle.tag := by
  have origin := (session.prepared (.log (.acquire name bound))).acquire_eq_or handle.name
  rw [acquire_of_obtained? got] at origin
  refine origin.imp_right fun ⟨misnamed, opened⟩ => ⟨misnamed, ?_⟩
  rw [opened]
  exact session.next_prepared_le _

/-- The handle that a step asks for is the one that was global before, exactly if the expressions
of the step left it in place and it has the name. -/
theorem obtained?_eq_iff {name : Option Expression} {bound : Option String} {other : Handle}
    (got : session.obtained? (.acquire name bound) = some other)
    (old : handle.tag < session.log.next) :
    other = handle ↔
      (session.prepared (.log (.acquire name bound))).current = some handle ∧
        other.name = handle.name := by
  constructor
  · rintro rfl
    rcases current_or_next_le_tag got with current | ⟨-, fresh⟩
    · exact ⟨current, rfl⟩
    · exact (Nat.not_lt.mpr fresh old).elim
  · rintro ⟨current, named⟩
    rw [← acquire_of_obtained? got, named, Log.acquire_name_of_current current]

theorem current_operate_setCurrent_iff (bound : Option String)
    (current : session.log.current = some handle) :
    (session.operate (.setCurrent bound)).2.log.current = some handle ↔
      ¬(LogStep.setCurrent bound).Displaces session handle := by
  cases bound with
  | none => simp [LogStep.Displaces, operate, Log.setCurrent]
  | some bound =>
      simp only [LogStep.Displaces, operate]
      cases session.handle? bound with
      | error fault => simp [current]
      | ok other => simp [Log.setCurrent]

/-- The own work of a step leaves a handle as the global one exactly if the expressions of the step
do and the work does not displace it. -/
theorem current_operate_iff (own : LogStep) (current : session.log.current = some handle)
    (old : handle.tag < session.log.next) :
    (session.operate own).2.log.current = some handle ↔
      (session.prepared (.log own)).current = some handle ∧ ¬own.Displaces session handle := by
  cases own with
  | acquire name bound =>
      cases got : session.obtained? (.acquire name bound) with
      | none => simp [log_operate_acquire, LogStep.Displaces, got]
      | some other =>
          rw [current_operate_acquire got, Option.some.injEq, obtained?_eq_iff got old]
          simp [LogStep.Displaces, got]
  | setCurrent bound =>
      have quiet : session.prepared (.log (.setCurrent bound)) = session.log :=
        prepared_of_silent rfl
      rw [current_operate_setCurrent_iff bound current, quiet]
      exact (and_iff_right current).symm
  | openHandle | setLevel | debug | inspect | inspectCurrent =>
      rw [(session.effect_operate _).current_eq]
      · exact (and_iff_left not_false).symm
      · nofun
      · nofun

/-- A global handle stays global exactly if the step does not displace it. -/
theorem current_step_iff (step : Step) (current : session.log.current = some handle)
    (old : handle.tag < session.log.next) :
    (session.step step).2.log.current = some handle ↔ ¬session.Displaces handle step := by
  have kept := current_prepared_iff step current
  cases step with
  | query query =>
      rw [Session.step, log_ask, kept]
      exact not_congr (or_iff_left not_false).symm
  | log own =>
      have worked := current_operate_iff own current old
      rw [kept, ← not_or] at worked
      exact worked

/-! ## Whole runs -/

theorem next_le_step (session : Session) (step : Step) :
    session.log.next ≤ (session.step step).2.log.next := by
  rw [next_step]
  exact Nat.le_add_right _ _

theorem current_run_of_not_displaces {steps : List Step}
    (current : session.log.current = some handle) (old : handle.tag < session.log.next)
    (kept : ∀ front step rest, steps = front ++ step :: rest →
      ¬(session.run front).2.Displaces handle step) :
    (session.run steps).2.log.current = some handle := by
  induction steps generalizing session with
  | nil => exact current
  | cons step rest ih =>
      obtain ⟨first, later⟩ := forall_split_cons_iff.mp kept
      have still : (session.step step).2.log.current = some handle :=
        (current_step_iff step current old).mpr first
      have older : handle.tag < (session.step step).2.log.next :=
        Nat.lt_of_lt_of_le old (session.next_le_step step)
      exact ih still older later

/-- Of a handle that was asked for, the same one is got again if no step displaced it, the step that
asks again included. -/
theorem obtained?_eq_of_not_displaces {between : List Step} {again : Option Expression}
    {rebound : Option String} {other : Handle} (current : session.log.current = some handle)
    (old : handle.tag < session.log.next)
    (kept : ∀ front step rest, between ++ [.log (.acquire again rebound)] = front ++ step :: rest →
      ¬(session.run front).2.Displaces handle step)
    (got : (session.run between).2.obtained? (.acquire again rebound) = some other) :
    other = handle := by
  have whole := current_run_of_not_displaces current old kept
  have last : (session.run (between ++ [.log (.acquire again rebound)])).2 =
      ((session.run between).2.operate (.acquire again rebound)).2 :=
    session.run_append between _
  rw [last, current_operate_acquire got] at whole
  exact Option.some.inj whole

/-! ## Asking for a handle -/

theorem exists_obtained?_acquire {name : Option Expression} {nameValue : Value} {channel : String}
    (evaluated : ((session.evaluateOr (.text libraryChannel) name).run session.supply).outcome =
      .ok nameValue)
    (isName : nameValue.text? = some channel) (bound : Option String) :
    ∃ handle, session.obtained? (.acquire name bound) = some handle ∧ handle.name = channel := by
  refine ⟨((session.prepared (.log (.acquire name bound))).acquire channel).1, ?_,
    Log.name_acquire _ _⟩
  simp [obtained?, evaluated, Except.bind, Log.acquireNamed, isName, Except.toOption]

/-- A step that asks for the handle of a channel gets it and answers with it, and it becomes the
global one.  It is the handle that was global before exactly if that is on the channel, and then the
log stays as it is; otherwise no handle that is known is the same. -/
structure Acquires (session : Session) (name : Option Expression) (bound : Option String)
    (channel : String) (handle : Handle) : Prop where
  got : session.obtained? (.acquire name bound) = some handle
  named : handle.name = channel
  answer : (session.operate (.acquire name bound)).1.answer =
    .ok (.acquired ((session.operate (.acquire name bound)).2.log.view handle)
      (session.namesOf handle))
  current : (session.operate (.acquire name bound)).2.log.current = some handle
  same_iff : (session.prepared (.log (.acquire name bound))).current = some handle ↔
    (session.prepared (.log (.acquire name bound))).Holds channel
  unchanged : (session.prepared (.log (.acquire name bound))).Holds channel →
    (session.operate (.acquire name bound)).2.log = session.prepared (.log (.acquire name bound))
  new : ¬(session.prepared (.log (.acquire name bound))).Holds channel → ¬session.Knows handle

theorem ComesFrom.exists_acquires {history : List Opening} (origin : session.ComesFrom history)
    {name : Option Expression} {nameValue : Value} {channel : String}
    (evaluated : ((session.evaluateOr (.text libraryChannel) name).run session.supply).outcome =
      .ok nameValue)
    (isName : nameValue.text? = some channel) (bound : Option String) :
    ∃ handle, session.Acquires name bound channel handle := by
  obtain ⟨handle, got, named⟩ := exists_obtained?_acquire evaluated isName bound
  have before := current_or_next_le_tag got
  rw [named] at before
  refine ⟨handle, got, named, answer_acquire got, current_operate_acquire got, ?_, ?_, ?_⟩
  · constructor
    · intro current
      exact named ▸ Log.holds_of_current current
    · intro holds
      exact before.resolve_right fun fresh => fresh.1 holds
  · intro holds
    rw [log_operate_acquire, got]
    exact Log.acquire_of_holds (named ▸ holds)
  · intro misnamed known
    rcases before with current | ⟨-, fresh⟩
    · exact misnamed (named ▸ Log.holds_of_current current)
    · exact Nat.not_lt.mpr fresh (origin.tag_lt handle known)

/-! ## Announcing -/

theorem holds_step_of_announced {query : Query} (loud : session.announced (.query query) ≠ []) :
    (session.step (.query query)).2.log.Holds libraryChannel := by
  rw [Session.step, log_ask]
  exact holds_prepared loud

/-- In every session that a run reaches, asking for the handle of a name answers with a handle on
the channel of that name, which becomes the global one.  It is the handle that was global before
exactly if that had the name, and then the log stays as it is; otherwise it is a new handle.  A
global handle stays global until a step displaces it, so asking for its name again gives it again.
Announcing something, as compiling a glob and gathering the members of a set do, leaves the
library's handle as the global one, whatever comes of the set. -/
theorem acquire_gives_current_until_displaced (steps : List Step) :
    let session := (initial.run steps).2
    (∀ (name : Option Expression) (bound : Option String) (nameValue : Value) (channel : String),
        ((session.evaluateOr (.text libraryChannel) name).run session.supply).outcome =
          .ok nameValue → nameValue.text? = some channel →
        ∃ handle, session.Acquires name bound channel handle) ∧
      (∀ (step : Step) (handle : Handle), session.log.current = some handle →
        ((session.step step).2.log.current = some handle ↔ ¬session.Displaces handle step)) ∧
      (∀ (name again : Option Expression) (bound rebound : Option String) (between : List Step)
        (handle other : Handle),
        let after := (session.operate (.acquire name bound)).2
        session.obtained? (.acquire name bound) = some handle →
        (after.run between).2.obtained? (.acquire again rebound) = some other →
        (∀ front step rest,
          between ++ [.log (.acquire again rebound)] = front ++ step :: rest →
            ¬(after.run front).2.Displaces handle step) →
        other = handle) ∧
      (∀ step, session.announced step ≠ [] → (session.prepared step).Holds libraryChannel) ∧
      (∀ query, session.announced (.query query) ≠ [] →
        (session.step (.query query)).2.log.Holds libraryChannel) ∧
      (∀ name expression, session.announced (.query (.define name expression)) =
        expression.trace session.names session.supply) ∧
      ∀ (supply : Supply) (value other : Value),
        (((Build.single value).run supply).notices = [] ↔ value.text? = none) ∧
          (((Build.anyOf value).run supply).notices = [] ↔
            ∀ first ∈ (supply.membersOf value).head?, first.text? = none) ∧
          (((Build.toSet value).run supply).notices = [] ↔
            value.text? = none ∧ value.isSequence = false) ∧
          ((Build.union value).run supply).notices = [] ∧
          ((Build.difference value other).run supply).notices = [] := by
  intro session
  have origin := comesFrom_run_initial steps
  refine ⟨fun name bound nameValue channel evaluated isName =>
      origin.exists_acquires evaluated isName bound,
    fun step handle current => current_step_iff step current (origin.tag_lt handle (.inl current)),
    ?_, fun step => holds_prepared, fun query => holds_step_of_announced,
    session.announced_define, Build.notices_eq_nil_iff⟩
  · intro name again bound rebound between handle other after got gotAgain kept
    have current := current_operate_acquire got
    have reached := origin.step (.log (.acquire name bound))
    have old : handle.tag < after.log.next := reached.tag_lt handle (.inl current)
    exact obtained?_eq_of_not_displaces current old kept gotAgain

/-- The library's handle is got again after a set was made and a step failed. -/
theorem acquire_again_after_making_a_set :
    let handle : Handle := ⟨0, libraryChannel⟩
    let session := (initial.run [.log (.acquire none none)]).2
    let after := (session.operate (.acquire none none)).2
    let makes : Query := .define "set" (.toSet (.constant (.text "*")))
    let between : List Step := [.query makes, .log (.setCurrent (some "unbound"))]
    (∃ handle, session.Acquires none none libraryChannel handle) ∧
      (session.step (.query makes)).2.log.current = some handle ∧
      (∃ other, (after.run between).2.obtained? (.acquire none none) = some other ∧
        other = handle) ∧
      (session.prepared (.query makes)).Holds libraryChannel ∧
      (session.step (.query makes)).2.log.Holds libraryChannel := by
  intro handle session after makes between
  obtain ⟨asks, stays, again, prepares, announces, -⟩ :=
    acquire_gives_current_until_displaced [.log (.acquire none none)]
  have loud : session.announced (.query makes) ≠ [] := by decide
  have current : session.log.current = some handle := by rfl
  have makesKeeps (other : Session) : ¬other.Displaces handle (.query makes) := by
    simp [Displaces, handle]
  have got : session.obtained? (.acquire none none) = some handle := by rfl
  have gotAgain : (after.run between).2.obtained? (.acquire none none) = some handle := by rfl
  have unbound : (after.run [.query makes]).2.handle? "unbound" = .error (.unbound "unbound") := by
    rfl
  have kept : ∀ front step rest, between ++ [.log (.acquire none none)] = front ++ step :: rest →
      ¬(after.run front).2.Displaces handle step := by
    refine forall_split_cons_iff.mpr ⟨makesKeeps _, forall_split_cons_iff.mpr ⟨?_,
      forall_split_cons_iff.mpr ⟨?_, forall_split_nil⟩⟩⟩
    · simp [Displaces, LogStep.Displaces, unbound, handle]
    · simp [Displaces, LogStep.Displaces, gotAgain, handle, between]
  exact ⟨asks none none _ libraryChannel rfl rfl,
    (stays (.query makes) handle current).mpr (makesKeeps session),
    ⟨handle, gotAgain, again none none none none between handle handle got gotAgain kept⟩,
    prepares (.query makes) loud, announces makes loud⟩

end Session
end PathSets
