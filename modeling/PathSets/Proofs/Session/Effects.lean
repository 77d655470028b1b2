import PathSets.Proofs.Session.Transcripts

/-!
# What a step does to the log

A step first evaluates its expressions, which may announce something, and then does its own work on
the log that this leaves.  That work is one of a few effects: it opens a handle, asks for one,
changes the global one, sets a level, or leaves the log as it is.
-/

namespace PathSets

/-! ## The builds of a step -/

namespace Session

theorem perform_pure {α : Type} (session : Session) (value : α) :
    session.perform (pure value) = (.ok value, [], session) := rfl

theorem perform_map {α β : Type} (session : Session) (build : Build .log α) (make : α → β) :
    session.perform (do return make (← build)) =
      ((session.perform build).1.map make, (session.perform build).2) := by
  unfold perform
  rw [Build.perform_bind]
  rcases build.perform session.supply session.log with ⟨fault | value, supply, log, deliveries⟩
  · rfl
  · simp [Except.map, Build.perform, pure, Build.done]

/-- What the expressions of a step announce. -/
def announced (session : Session) : Step → List Notice
  | .query query => ((query.find session.names).run session.supply).notices
  | .log (.openHandle _ name level _) =>
      ((session.handleArguments name level).run session.supply).notices
  | .log (.acquire name _) =>
      ((session.evaluateOr (.text libraryChannel) name).run session.supply).notices
  | .log (.setLevel handle level) =>
      match session.handle? handle with
      | .ok _ => ((level.evaluate session.names).run session.supply).notices
      | .error _ => []
  | .log (.debug handle _ context) =>
      match session.handle? handle with
      | .ok _ => ((evaluateContext session.names context).run session.supply).notices
      | .error _ => []
  | .log (.setCurrent _) | .log (.inspect _) | .log .inspectCurrent => []

/-- The log on which a step does its own work: the expressions of the step are evaluated. -/
def prepared (session : Session) (step : Step) : Log :=
  (session.log.announceAll (session.announced step)).2

end Session

/-! ## The work of a step -/

theorem bind_eq_ok_iff {α β : Type} {outcome : Except Fault α} {next : α → Except Fault β}
    {result : β} :
    outcome.bind next = .ok result ↔ ∃ value, outcome = .ok value ∧ next value = .ok result := by
  cases outcome <;> simp [Except.bind]

namespace Log

/-- The log with another level on a channel. -/
def withLevel (log : Log) (name : String) (rank : Int) : Log :=
  { log with channels := log.channels.set name { log.channels name with level := rank } }

theorem channels_withLevel (log : Log) (name : String) (rank : Int) :
    (log.withLevel name rank).channels =
      log.channels.set name { log.channels name with level := rank } := rfl

theorem openHandle_eq_ok_iff {log : Log} {name level : Value} {sinks : Option (List Sink)}
    {opened : Handle × Log} :
    log.openHandle name level sinks = .ok opened ↔
      ∃ channel rank, name.text? = some channel ∧ readLevel level = .ok rank ∧
        log.openAt channel rank sinks = opened := by
  unfold openHandle
  cases name.text? with
  | none => simp
  | some channel => cases readLevel level <;> simp [Except.map]

theorem acquireNamed_eq_ok_iff {log : Log} {name : Value} {acquired : Handle × Log} :
    log.acquireNamed name = .ok acquired ↔
      ∃ channel, name.text? = some channel ∧ log.acquire channel = acquired := by
  unfold acquireNamed
  cases name.text? <;> simp

theorem setLevel_eq_ok_iff {log after : Log} {handle : Handle} {level : Value} :
    log.setLevel handle level = .ok after ↔
      ∃ rank, readLevel level = .ok rank ∧ log.withLevel handle.name rank = after := by
  unfold setLevel withLevel
  cases readLevel level <;> simp [Except.map]

end Log

/-- What a step on the log answers in a session, and which log it leaves, when its expressions have
left `log`. -/
inductive LogStep.Effect (session : Session) (log : Log) :
    LogStep → Except Fault Answer → Log → Prop where
  /-- What fails leaves the log as it is. -/
  | failed (step : LogStep) (fault : Fault) : Effect session log step (.error fault) log
  | opened {bound : String} {name level : Option Expression} {sinks : Option (List Sink)}
      {nameValue levelValue : Value} {channel : String} {rank : Int}
      (evaluated : ((session.handleArguments name level).run session.supply).outcome =
        .ok (nameValue, levelValue))
      (isName : nameValue.text? = some channel) (isLevel : readLevel levelValue = .ok rank) :
      Effect session log (.openHandle bound name level sinks)
        (.ok (.handle
          ((log.openAt channel rank sinks).2.view (log.openAt channel rank sinks).1)))
        (log.openAt channel rank sinks).2
  | acquired {name : Option Expression} {bound : Option String} {nameValue : Value}
      {channel : String} {names : List String}
      (evaluated : ((session.evaluateOr (.text libraryChannel) name).run session.supply).outcome =
        .ok nameValue)
      (isName : nameValue.text? = some channel) :
      Effect session log (.acquire name bound)
        (.ok (.acquired ((log.acquire channel).2.view (log.acquire channel).1) names))
        (log.acquire channel).2
  | dismissed : Effect session log (.setCurrent none) (.ok .done) (log.setCurrent none)
  | changed {bound : String} {handle : Handle} (isHandle : session.handle? bound = .ok handle) :
      Effect session log (.setCurrent (some bound)) (.ok .done) (log.setCurrent (some handle))
  | leveled {bound : String} {level : Expression} {handle : Handle} {levelValue : Value}
      {rank : Int} (isHandle : session.handle? bound = .ok handle)
      (evaluated : ((level.evaluate session.names).run session.supply).outcome = .ok levelValue)
      (isLevel : readLevel levelValue = .ok rank) :
      Effect session log (.setLevel bound level)
        (.ok (.handle ((log.withLevel handle.name rank).view handle)))
        (log.withLevel handle.name rank)
  | emitted (bound message : String) (context : List (String × Expression)) :
      Effect session log (.debug bound message context) (.ok .done) log
  | inspected {bound : String} {handle : Handle} (isHandle : session.handle? bound = .ok handle) :
      Effect session log (.inspect bound) (.ok (.handle (log.view handle))) log
  | inspectedCurrent :
      Effect session log .inspectCurrent (.ok (.current (log.current.map log.view))) log

namespace Session

theorem log_ask (session : Session) (query : Query) :
    (session.ask query).2.log = session.prepared (.query query) := by
  simp only [ask, perform_eq, prepared, announced]
  split <;> rfl

theorem deliveries_ask (session : Session) (query : Query) :
    (session.ask query).1.deliveries =
      (session.log.announceAll (session.announced (.query query))).1 := by
  simp only [ask, perform_eq, announced]

/-- Every step on the log has one of the effects on the log that its expressions leave. -/
theorem effect_operate (session : Session) (step : LogStep) :
    step.Effect session (session.prepared (.log step)) (session.operate step).1.answer
      (session.operate step).2.log := by
  cases step with
  | openHandle bound name level sinks =>
      simp only [operate, perform_eq, prepared, announced]
      split
      case h_1 => exact .failed _ _
      case h_2 handle log done =>
        obtain ⟨⟨nameValue, levelValue⟩, evaluated, done⟩ := bind_eq_ok_iff.mp done
        obtain ⟨channel, rank, isName, isLevel, opened⟩ := Log.openHandle_eq_ok_iff.mp done
        obtain ⟨rfl, rfl⟩ := Prod.mk.inj opened
        exact .opened evaluated isName isLevel
  | acquire name bound =>
      simp only [operate, perform_eq, prepared, announced]
      split
      case h_1 => exact .failed _ _
      case h_2 handle log done =>
        obtain ⟨nameValue, evaluated, done⟩ := bind_eq_ok_iff.mp done
        obtain ⟨channel, isName, acquired⟩ := Log.acquireNamed_eq_ok_iff.mp done
        obtain ⟨rfl, rfl⟩ := Prod.mk.inj acquired
        cases bound with
        | none => exact .acquired evaluated isName
        | some bound => exact .acquired evaluated isName
  | setCurrent bound =>
      cases bound with
      | none => exact .dismissed
      | some name =>
          rw [operate]
          cases isHandle : session.handle? name with
          | error fault => exact .failed _ fault
          | ok handle => exact .changed isHandle
  | setLevel bound level =>
      simp only [operate, perform_eq, prepared, announced]
      cases isHandle : session.handle? bound with
      | error fault => exact .failed _ fault
      | ok handle =>
          dsimp only
          split
          case h_1 => exact .failed _ _
          case h_2 log done =>
            obtain ⟨levelValue, evaluated, done⟩ := bind_eq_ok_iff.mp done
            obtain ⟨rank, isLevel, rfl⟩ := Log.setLevel_eq_ok_iff.mp done
            exact .leveled isHandle evaluated isLevel
  | debug bound message context =>
      simp only [operate, perform_eq, prepared, announced]
      cases session.handle? bound with
      | error fault => exact .failed _ fault
      | ok handle =>
          dsimp only
          split
          case h_1 => exact .failed _ _
          case h_2 entries done =>
            cases reservedKey? entries with
            | some key => exact .failed _ _
            | none => exact .emitted bound message context
  | inspect bound =>
      rw [operate]
      cases isHandle : session.handle? bound with
      | error fault => exact .failed _ fault
      | ok handle => exact .inspected isHandle
  | inspectCurrent => exact .inspectedCurrent

/-! ## Steps with evaluated expressions -/

variable {session : Session}

theorem openHandle_of_evaluated {name level : Option Expression} {nameValue levelValue : Value}
    (evaluated : ((session.handleArguments name level).run session.supply).outcome =
      .ok (nameValue, levelValue)) (bound : String) (sinks : Option (List Sink)) :
    let step := LogStep.openHandle bound name level sinks
    let log := session.prepared (.log step)
    let opened := log.openHandle nameValue levelValue sinks
    (session.operate step).1.answer = opened.map (fun opened => .handle (opened.2.view opened.1)) ∧
      (session.operate step).2.log = (opened.toOption.map Prod.snd).getD log := by
  simp only [operate, perform_eq, prepared, announced, evaluated, Except.bind]
  split
  case h_1 fault refused =>
    rw [refused]
    exact ⟨rfl, rfl⟩
  case h_2 handle log opened =>
    rw [opened]
    exact ⟨rfl, rfl⟩

theorem acquire_of_evaluated {name : Option Expression} {nameValue : Value}
    (evaluated : ((session.evaluateOr (.text libraryChannel) name).run session.supply).outcome =
      .ok nameValue) (bound : Option String) :
    let step := LogStep.acquire name bound
    let log := session.prepared (.log step)
    let acquired := log.acquireNamed nameValue
    (session.operate step).1.answer = acquired.map (fun acquired =>
        .acquired (acquired.2.view acquired.1) (session.namesOf acquired.1)) ∧
      (session.operate step).2.log = (acquired.toOption.map Prod.snd).getD log := by
  simp only [operate, perform_eq, prepared, announced, evaluated, Except.bind]
  split
  case h_1 fault refused =>
    rw [refused]
    exact ⟨rfl, rfl⟩
  case h_2 handle log acquired =>
    rw [acquired]
    cases bound <;> exact ⟨rfl, rfl⟩

theorem setLevel_of_evaluated {bound : String} {handle : Handle} {level : Expression}
    {levelValue : Value} (isHandle : session.handle? bound = .ok handle)
    (evaluated : ((level.evaluate session.names).run session.supply).outcome = .ok levelValue) :
    let step := LogStep.setLevel bound level
    let log := session.prepared (.log step)
    let leveled := log.setLevel handle levelValue
    (session.operate step).1.answer = leveled.map (fun log => .handle (log.view handle)) ∧
      (session.operate step).2.log = leveled.toOption.getD log := by
  simp only [operate, perform_eq, prepared, announced, isHandle, evaluated, Except.bind]
  split
  case h_1 fault refused =>
    rw [refused]
    exact ⟨rfl, rfl⟩
  case h_2 log leveled =>
    rw [leveled]
    exact ⟨rfl, rfl⟩

end Session
end PathSets
