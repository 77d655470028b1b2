import PathSets.Proofs.Session.Configuration
import PathSets.Proofs.Log.Sinks

/-!
# Handles and openings

A step gets at most one handle by its own work, which it opens or asks for, and binds it to a name
if it is given one.  Before that, its expressions may have asked for the library's handle.  A handle
that is not the global one already comes from an opening and has a tag that no handle had before.
So a session knows only handles on channels that were opened, and it tells any two handles apart by
their tags.
-/

namespace PathSets

/-! ## The handle of a step -/

theorem Log.acquire_of_acquireNamed_eq_ok {log after : Log} {nameValue : Value} {handle : Handle}
    (done : log.acquireNamed nameValue = .ok (handle, after)) :
    log.acquire handle.name = (handle, after) := by
  obtain ⟨channel, -, acquired⟩ := acquireNamed_eq_ok_iff.mp done
  have named : (log.acquire channel).1.name = channel := log.name_acquire channel
  rw [acquired] at named
  rw [named, acquired]

/-- The name that a step binds the handle to that it gets. -/
def LogStep.bound? : LogStep → Option String
  | .openHandle bound _ _ _ => some bound
  | .acquire _ bound => bound
  | _ => none

namespace Session

/-- The handle that a step opens or asks for, unless it fails. -/
def obtained? (session : Session) (step : LogStep) : Option Handle :=
  let log := session.prepared (.log step)
  match step with
  | .openHandle _ name level sinks =>
      let arguments := ((session.handleArguments name level).run session.supply).outcome
      (arguments.bind fun (name, level) => log.openHandle name level sinks).toOption.map Prod.fst
  | .acquire name _ =>
      let argument := ((session.evaluateOr (.text libraryChannel) name).run session.supply).outcome
      (argument.bind log.acquireNamed).toOption.map Prod.fst
  | _ => none

theorem handles_ask (session : Session) (query : Query) :
    (session.ask query).2.handles = session.handles := by
  simp only [ask, perform_eq]
  split <;> rfl

theorem handles_operate (session : Session) (step : LogStep) :
    (session.operate step).2.handles =
      match step.bound?, session.obtained? step with
      | some bound, some handle => (session.bindHandle bound handle).handles
      | _, _ => session.handles := by
  cases step with
  | openHandle bound name level sinks =>
      simp only [operate, perform_eq, LogStep.bound?, obtained?, prepared, announced]
      split
      case h_1 fault failed =>
        rw [failed]
        rfl
      case h_2 handle log done =>
        rw [done]
        rfl
  | acquire name bound =>
      simp only [operate, perform_eq, LogStep.bound?, obtained?, prepared, announced]
      split
      case h_1 fault failed =>
        rw [failed]
        cases bound <;> rfl
      case h_2 handle log done =>
        rw [done]
        cases bound <;> rfl
  | setCurrent bound =>
      cases bound with
      | none => rfl
      | some name =>
          rw [operate]
          cases session.handle? name <;> rfl
  | setLevel bound level =>
      simp only [operate, perform_eq]
      cases session.handle? bound with
      | error fault => rfl
      | ok handle =>
          dsimp only
          split <;> rfl
  | debug bound message context =>
      simp only [operate, perform_eq]
      cases session.handle? bound with
      | error fault => rfl
      | ok handle =>
          dsimp only
          split
          case h_1 => rfl
          case h_2 entries done => cases reservedKey? entries <;> rfl
  | inspect | inspectCurrent => rfl

theorem toOption_eq_some_iff {α : Type} {outcome : Except Fault α} {value : α} :
    outcome.toOption = some value ↔ outcome = .ok value := by
  cases outcome <;> simp [Except.toOption]

/-- A step that opens a handle answers with it. -/
theorem answer_openHandle {session : Session} {bound : String} {name level : Option Expression}
    {sinks : Option (List Sink)} {handle : Handle}
    (got : session.obtained? (.openHandle bound name level sinks) = some handle) :
    (session.operate (.openHandle bound name level sinks)).1.answer =
      .ok (.handle ((session.operate (.openHandle bound name level sinks)).2.log.view handle)) := by
  simp only [operate, perform_eq, obtained?, prepared, announced] at got ⊢
  split
  case h_1 fault failed =>
    rw [failed] at got
    cases got
  case h_2 opened log done =>
    rw [done] at got
    cases got
    rfl

/-- A step that asks for a handle answers with it and with the names it was bound to before. -/
theorem answer_acquire {session : Session} {name : Option Expression} {bound : Option String}
    {handle : Handle} (got : session.obtained? (.acquire name bound) = some handle) :
    (session.operate (.acquire name bound)).1.answer =
      .ok (.acquired ((session.operate (.acquire name bound)).2.log.view handle)
        (session.namesOf handle)) := by
  simp only [operate, perform_eq, obtained?, prepared, announced] at got ⊢
  split
  case h_1 fault failed =>
    rw [failed] at got
    cases got
  case h_2 asked log done =>
    rw [done] at got
    cases got
    cases bound <;> rfl

theorem acquire_of_obtained? {session : Session} {name : Option Expression}
    {bound : Option String} {handle : Handle}
    (got : session.obtained? (.acquire name bound) = some handle) :
    ((session.prepared (.log (.acquire name bound))).acquire handle.name).1 = handle := by
  obtain ⟨⟨asked, log⟩, done, rfl⟩ := Option.map_eq_some_iff.mp got
  obtain ⟨nameValue, -, done⟩ := bind_eq_ok_iff.mp (toOption_eq_some_iff.mp done)
  exact congrArg Prod.fst (Log.acquire_of_acquireNamed_eq_ok done)

/-- A step that asks for a handle leaves the log that this leaves, or, if it fails, the log that its
expressions leave. -/
theorem log_operate_acquire (session : Session) (name : Option Expression)
    (bound : Option String) :
    (session.operate (.acquire name bound)).2.log =
      match session.obtained? (.acquire name bound) with
      | some handle => ((session.prepared (.log (.acquire name bound))).acquire handle.name).2
      | none => session.prepared (.log (.acquire name bound)) := by
  simp only [operate, perform_eq, obtained?, prepared, announced]
  split
  case h_1 fault failed =>
    rw [failed]
    rfl
  case h_2 asked log done =>
    rw [done]
    obtain ⟨nameValue, -, done⟩ := bind_eq_ok_iff.mp done
    have acquired := congrArg Prod.snd (Log.acquire_of_acquireNamed_eq_ok done)
    cases bound with
    | none => exact acquired.symm
    | some bound => exact acquired.symm

/-- The handle that a step asks for becomes the global one. -/
theorem current_operate_acquire {session : Session} {name : Option Expression}
    {bound : Option String} {handle : Handle}
    (got : session.obtained? (.acquire name bound) = some handle) :
    (session.operate (.acquire name bound)).2.log.current = some handle := by
  rw [log_operate_acquire, got]
  dsimp only
  rw [Log.current_acquire, acquire_of_obtained? got]

end Session

/-! ## Openings -/

/-- The opening that a step makes by its own work, told by its answer.  Asking for a handle opens
nothing if the global handle has the name. -/
def LogStep.openings (log : Log) : LogStep → Except Fault Answer → List Opening
  | .openHandle _ _ _ sinks, .ok (.handle view) => [⟨view.name, sinks⟩]
  | .acquire _ _, .ok (.acquired view _) => if log.Holds view.name then [] else [⟨view.name, none⟩]
  | _, _ => []

namespace Log

theorem OpenedBy.withLevel {log : Log} {history : List Opening} (opened : log.OpenedBy history)
    (name : String) (rank : Int) : (log.withLevel name rank).OpenedBy history := by
  intro other opening found
  have before := opened other opening found
  by_cases same : other = name
  · subst same
    rw [channels_withLevel, Channels.set_self]
    exact before.withLevel rank
  · rwa [channels_withLevel, Channels.set_of_ne _ _ same]

end Log

namespace LogStep

variable {session : Session} {log after : Log} {step : LogStep} {answer : Except Fault Answer}

theorem openings_error (log : Log) (step : LogStep) (fault : Fault) :
    step.openings log (.error fault) = [] := by
  cases step <;> rfl

theorem Effect.openedBy (effect : step.Effect session log answer after) {history : List Opening}
    (opened : log.OpenedBy history) : after.OpenedBy (step.openings log answer ++ history) := by
  cases effect with
  | failed =>
      rw [openings_error]
      exact opened
  | opened => exact opened.openAt _ _ _
  | @acquired _ _ _ channel _ _ _ =>
      have acquired := opened.acquire channel
      by_cases holds : log.Holds channel
      · simpa [openings, Log.view, holds] using acquired
      · simpa [openings, Log.view, holds] using acquired
  | leveled => exact opened.withLevel _ _
  | dismissed | changed | emitted | inspected | inspectedCurrent => exact opened

/-- The global handle that a step leaves was it before, or it has a name, or it was opened. -/
theorem Effect.current_cases (effect : step.Effect session log answer after) {handle : Handle}
    (current : after.current = some handle) :
    log.current = some handle ∨ (∃ bound, session.handle? bound = .ok handle) ∨
      step.openings log answer = [⟨handle.name, none⟩] ∧ handle.tag = log.next := by
  cases effect with
  | failed | opened | leveled | emitted | inspected | inspectedCurrent => exact .inl current
  | @acquired _ _ _ channel _ _ _ =>
      rw [Log.current_acquire] at current
      cases current
      rcases log.acquire_eq_or channel with before | ⟨other, new⟩
      · exact .inl before
      · refine .inr (.inr ⟨?_, ?_⟩)
        · simp [openings, Log.view, other]
        · rw [new]
  | dismissed => cases current
  | @changed bound _ isHandle =>
      cases current
      exact .inr (.inl ⟨bound, isHandle⟩)

theorem Effect.next_eq (effect : step.Effect session log answer after) :
    after.next = log.next + (step.openings log answer).length := by
  cases effect with
  | failed =>
      rw [openings_error]
      rfl
  | @acquired _ _ _ channel _ _ _ =>
      rw [Log.next_acquire]
      by_cases holds : log.Holds channel
      · simp [openings, Log.view, holds]
      · simp [openings, Log.view, holds]
  | opened | leveled | dismissed | changed | emitted | inspected | inspectedCurrent => rfl

end LogStep

namespace Session

/-- The opening that the expressions of a step make when they announce something. -/
def announcedOpenings (session : Session) (step : Step) : List Opening :=
  if session.announced step = [] ∨ session.log.Holds libraryChannel then []
  else [⟨libraryChannel, none⟩]

/-- The openings of a step, the last one first. -/
def openings (session : Session) (step : Step) : List Opening :=
  match step with
  | .query _ => session.announcedOpenings step
  | .log own =>
      own.openings (session.prepared step) (session.operate own).1.answer ++
        session.announcedOpenings step

/-- The openings of a run, the last one first. -/
def openingsAlong (session : Session) : List Step → List Opening
  | [] => []
  | step :: rest => (session.step step).2.openingsAlong rest ++ session.openings step

theorem openedBy_prepared {session : Session} {history : List Opening}
    (opened : session.log.OpenedBy history) (step : Step) :
    (session.prepared step).OpenedBy (session.announcedOpenings step ++ history) := by
  have announced := opened.announceAll (session.announced step)
  rw [announcedOpenings]
  split
  case isTrue quiet => rwa [if_pos quiet] at announced
  case isFalse loud => rwa [if_neg loud] at announced

theorem next_prepared (session : Session) (step : Step) :
    (session.prepared step).next =
      session.log.next + (session.announcedOpenings step).length := by
  rw [prepared, Log.announceAll_eq, announcedOpenings]
  by_cases silent : session.announced step = []
  · simp [silent]
  · by_cases holds : session.log.Holds libraryChannel
    · simp [silent, holds, Log.next_acquire]
    · simp [silent, holds, Log.next_acquire]

theorem openedBy_step {session : Session} {history : List Opening}
    (opened : session.log.OpenedBy history) (step : Step) :
    (session.step step).2.log.OpenedBy (session.openings step ++ history) := by
  have prepared := openedBy_prepared opened step
  cases step with
  | query query =>
      rw [Session.step, log_ask]
      exact prepared
  | log own =>
      rw [openings, List.append_assoc]
      exact (session.effect_operate own).openedBy prepared

theorem next_step (session : Session) (step : Step) :
    (session.step step).2.log.next = session.log.next + (session.openings step).length := by
  have prepared := session.next_prepared step
  cases step with
  | query query =>
      rw [Session.step, log_ask]
      exact prepared
  | log own =>
      have worked := (session.effect_operate own).next_eq
      rw [prepared, Nat.add_assoc, Nat.add_comm (List.length _), ← List.length_append] at worked
      exact worked

/-! ## Known handles -/

/-- A handle is known to a session: it is the global one, or it has a name. -/
def Knows (session : Session) (handle : Handle) : Prop :=
  session.log.current = some handle ∨ ∃ bound, (bound, handle) ∈ session.handles

/-- A handle comes from an opening of a step: its channel is opened in the step, and its tag is
given out in the step. -/
structure Opens (session : Session) (step : Step) (handle : Handle) : Prop where
  named : handle.name ∈ (session.openings step).map Opening.name
  next_le : session.log.next ≤ handle.tag
  tag_lt : handle.tag < (session.step step).2.log.next

variable {session : Session} {handle : Handle}

theorem knows_of_handle?_eq_ok {bound : String} (isHandle : session.handle? bound = .ok handle) :
    session.Knows handle := by
  unfold handle? at isHandle
  split at isHandle
  case h_1 found lookup =>
    cases isHandle
    obtain ⟨front, back, split, -⟩ := List.lookup_eq_some_iff.mp lookup
    exact .inr ⟨bound, by simp [split]⟩
  case h_2 => cases isHandle

theorem announcedOpenings_sublist (session : Session) (step : Step) :
    (session.announcedOpenings step).Sublist (session.openings step) := by
  cases step with
  | query query => exact List.Sublist.refl _
  | log own => exact List.sublist_append_right _ _

/-- After the expressions of a step the global handle is the one from before, or it was opened. -/
theorem current_prepared {step : Step} (current : (session.prepared step).current = some handle) :
    session.log.current = some handle ∨ session.Opens step handle := by
  rw [prepared, Log.announceAll_eq] at current
  by_cases silent : session.announced step = []
  · rw [if_pos silent] at current
    exact .inl current
  · simp only [if_neg silent, Log.current_acquire, Option.some.injEq] at current
    subst current
    rcases session.log.acquire_eq_or libraryChannel with before | ⟨other, opened⟩
    · exact .inl before
    right
    have openings_eq : session.announcedOpenings step = [⟨libraryChannel, none⟩] :=
      if_neg (not_or.mpr ⟨silent, other⟩)
    have sub := session.announcedOpenings_sublist step
    rw [openings_eq] at sub
    rw [opened]
    refine ⟨List.mem_map.mpr ⟨_, sub.subset (List.mem_singleton_self _), rfl⟩, Nat.le_refl _, ?_⟩
    rw [session.next_step step]
    exact Nat.lt_add_of_pos_right sub.length_le

theorem next_prepared_le (session : Session) (step : Step) :
    session.log.next ≤ (session.prepared step).next := by
  rw [next_prepared]
  exact Nat.le_add_right _ _

theorem opens_of_openings_eq {own : LogStep} {given : Option (List Sink)}
    (opened : own.openings (session.prepared (.log own)) (session.operate own).1.answer =
      [⟨handle.name, given⟩])
    (tag_eq : handle.tag = (session.prepared (.log own)).next) :
    session.Opens (.log own) handle := by
  have openings_eq : session.openings (.log own) =
      ⟨handle.name, given⟩ :: session.announcedOpenings (.log own) := by
    rw [openings, opened, List.singleton_append]
  refine ⟨by simp [openings_eq], ?_, ?_⟩
  · rw [tag_eq]
    exact session.next_prepared_le _
  · rw [tag_eq, next_prepared, next_step, openings_eq, List.length_cons]
    exact Nat.lt_succ_self _

theorem tag_of_obtained?_openHandle {bound : String} {name level : Option Expression}
    {sinks : Option (List Sink)}
    (got : session.obtained? (.openHandle bound name level sinks) = some handle) :
    handle.tag = (session.prepared (.log (.openHandle bound name level sinks))).next := by
  obtain ⟨⟨opened, log⟩, done, rfl⟩ := Option.map_eq_some_iff.mp got
  obtain ⟨arguments, -, done⟩ := bind_eq_ok_iff.mp (toOption_eq_some_iff.mp done)
  obtain ⟨channel, rank, -, -, opens⟩ := Log.openHandle_eq_ok_iff.mp done
  cases opens
  rfl

/-- After a step the global handle was known before, or it was opened. -/
theorem knows_or_opens_of_current {step : Step}
    (current : (session.step step).2.log.current = some handle) :
    session.Knows handle ∨ session.Opens step handle := by
  cases step with
  | query query =>
      rw [Session.step, log_ask] at current
      exact (current_prepared current).imp_left .inl
  | log own =>
      rcases (session.effect_operate own).current_cases current with
        before | ⟨bound, isHandle⟩ | ⟨opened, tag_eq⟩
      · exact (current_prepared before).imp_left .inl
      · exact .inl (knows_of_handle?_eq_ok isHandle)
      · exact .inr (opens_of_openings_eq opened tag_eq)

/-- The handle that a step gets by its own work was known before, or it was opened. -/
theorem knows_or_opens_of_obtained? {own : LogStep} (got : session.obtained? own = some handle) :
    session.Knows handle ∨ session.Opens (.log own) handle := by
  cases own with
  | openHandle bound name level sinks =>
      have opened : (LogStep.openHandle bound name level sinks).openings
          (session.prepared (.log (.openHandle bound name level sinks)))
          (session.operate (.openHandle bound name level sinks)).1.answer =
            [⟨handle.name, sinks⟩] := by
        rw [answer_openHandle got]
        rfl
      exact .inr (opens_of_openings_eq opened (tag_of_obtained?_openHandle got))
  | acquire name bound => exact knows_or_opens_of_current (current_operate_acquire got)
  | setCurrent | setLevel | debug | inspect | inspectCurrent => cases got

/-- After a step every handle was known before, or it was opened. -/
theorem knows_or_opens_of_knows_step {step : Step} (known : (session.step step).2.Knows handle) :
    session.Knows handle ∨ session.Opens step handle := by
  rcases known with current | ⟨name, named⟩
  · exact knows_or_opens_of_current current
  cases step with
  | query query =>
      rw [Session.step, handles_ask] at named
      exact .inl (.inr ⟨name, named⟩)
  | log own =>
      rw [Session.step, handles_operate] at named
      split at named
      case h_1 bound got binds obtained =>
        rcases List.mem_cons.mp named with new | old
        · cases new
          exact knows_or_opens_of_obtained? obtained
        · exact .inl (.inr ⟨name, (List.mem_filter.mp old).1⟩)
      case h_2 => exact .inl (.inr ⟨name, named⟩)

/-! ## Whole runs -/

/-- A session comes from openings, listed from the last one to the first: its channels are as they
left them, but for their levels, and its handles are on channels that they opened and have tags that
were given out. -/
structure ComesFrom (session : Session) (history : List Opening) : Prop where
  openedBy : session.log.OpenedBy history
  named : ∀ handle, session.Knows handle → handle.name ∈ history.map Opening.name
  tag_lt : ∀ handle, session.Knows handle → handle.tag < session.log.next

theorem comesFrom_initial : initial.ComesFrom [] := by
  have unknown (handle : Handle) : ¬initial.Knows handle := by
    rintro (current | ⟨name, named⟩)
    · cases current
    · cases named
  exact ⟨.initial, fun handle known => (unknown handle known).elim,
    fun handle known => (unknown handle known).elim⟩

theorem ComesFrom.step {history : List Opening} (origin : session.ComesFrom history) (step : Step) :
    (session.step step).2.ComesFrom (session.openings step ++ history) where
  openedBy := openedBy_step origin.openedBy step
  named handle known := by
    rw [List.map_append, List.mem_append]
    rcases knows_or_opens_of_knows_step known with old | opened
    · exact .inr (origin.named handle old)
    · exact .inl opened.named
  tag_lt handle known := by
    rcases knows_or_opens_of_knows_step known with old | opened
    · rw [next_step]
      exact Nat.lt_add_right _ (origin.tag_lt handle old)
    · exact opened.tag_lt

theorem ComesFrom.run {history : List Opening} (origin : session.ComesFrom history)
    (steps : List Step) :
    (session.run steps).2.ComesFrom (session.openingsAlong steps ++ history) := by
  induction steps generalizing session history with
  | nil => exact origin
  | cons step rest ih =>
      rw [openingsAlong, List.append_assoc]
      exact ih (origin.step step)

/-- Every reachable session comes from the openings of its run. -/
theorem comesFrom_run_initial (steps : List Step) :
    (initial.run steps).2.ComesFrom (initial.openingsAlong steps) := by
  have reached := comesFrom_initial.run steps
  rwa [List.append_nil] at reached

end Session
end PathSets
