import PathSets.Proofs.Build.Making
import PathSets.Proofs.Session.Acquiring
import PathSets.Proofs.Session.Emissions

/-!
# Steps that the log refuses

Opening a handle, asking for one and setting a level read a name, a level, or both, and nothing is
changed before they are read.  So these steps fail for the values that they were given only: for a
name that is no text, and for a level that is neither an integer nor a text that names a level in
upper case.  What fails leaves the log as it was.
-/

namespace PathSets

/-! ## Levels -/

namespace Level

variable {name : String}

theorem ofName?_eq_some_iff {level : Level} : ofName? name = some level ↔ level.name = name := by
  constructor
  · intro found
    simpa using List.find?_some found
  · rintro rfl
    exact ofName?_name level

theorem ofName?_eq_none_iff :
    ofName? name = none ↔ name ∉ ["DEBUG", "INFO", "WARNING", "ERROR"] := by
  rw [show ["DEBUG", "INFO", "WARNING", "ERROR"] = all.map Level.name from rfl]
  simp [ofName?]

end Level

/-- Which rank a value gives as a level: a text that of the level it names in upper case, and an
integer itself. -/
inductive GivesLevel : Value → Int → Prop
  | named {value : Value} {content : String} (level : Level) (isText : value.text? = some content)
      (names : uppercase content = level.name) : GivesLevel value level.rank
  | integer {value : Value} {rank : Int} (notText : value.text? = none)
      (counts : value.integer? = some rank) : GivesLevel value rank

/-- Why a value gives no level: it is a text that names none in upper case, or it is neither a text
nor an integer. -/
inductive LevelFault : Value → Fault → Prop
  | unknown {value : Value} {content : String} (isText : value.text? = some content)
      (unnamed : uppercase content ∉ ["DEBUG", "INFO", "WARNING", "ERROR"]) :
      LevelFault value (.levelUnknown (uppercase content))
  | notInteger {value : Value} (notText : value.text? = none) (uncounted : value.integer? = none) :
      LevelFault value (.levelNotInteger value.shown)

theorem readLevel_eq_ok_iff {value : Value} {rank : Int} :
    readLevel value = .ok rank ↔ GivesLevel value rank := by
  constructor
  · intro read
    unfold readLevel at read
    split at read
    case h_1 content isText =>
      split at read
      case h_1 level found =>
        cases read
        exact .named level isText (Level.ofName?_eq_some_iff.mp found).symm
      case h_2 => cases read
    case h_2 notText =>
      split at read
      case h_1 counts =>
        cases read
        exact .integer notText counts
      case h_2 => cases read
  · rintro (⟨level, isText, names⟩ | ⟨notText, counts⟩)
    · simp [readLevel, isText, names]
    · simp [readLevel, notText, counts]

theorem readLevel_eq_error_iff {value : Value} {fault : Fault} :
    readLevel value = .error fault ↔ LevelFault value fault := by
  constructor
  · intro read
    unfold readLevel at read
    split at read
    case h_1 content isText =>
      split at read
      case h_1 => cases read
      case h_2 missing =>
        cases read
        exact .unknown isText (Level.ofName?_eq_none_iff.mp missing)
    case h_2 notText =>
      split at read
      case h_1 => cases read
      case h_2 uncounted =>
        cases read
        exact .notInteger notText uncounted
  · rintro (⟨isText, unnamed⟩ | ⟨notText, uncounted⟩)
    · simp [readLevel, isText, Level.ofName?_eq_none_iff.mpr unnamed]
    · simp [readLevel, notText, uncounted]

/-- Texts with one upper case give the same level, or none for the same reason. -/
theorem readLevel_congr {left right : Value} {first second : String}
    (isFirst : left.text? = some first) (isSecond : right.text? = some second)
    (same : uppercase first = uppercase second) : readLevel left = readLevel right := by
  simp only [readLevel, isFirst, isSecond, same]

theorem LevelFault.category_eq {value : Value} {fault : Fault} (refused : LevelFault value fault) :
    fault.category = if value.text?.isSome then .unknownName else .wrongKind := by
  cases refused with
  | unknown isText => simp [Fault.category, isText]
  | notInteger notText => simp [Fault.category, notText]

namespace Log

variable {log : Log} {fault : Fault}

theorem openHandle_eq_error_iff {name level : Value} {sinks : Option (List Sink)} :
    log.openHandle name level sinks = .error fault ↔
      name.text? = none ∧ fault = .nameNotText ∨
        name.text?.isSome = true ∧ LevelFault level fault := by
  unfold openHandle
  cases name.text? with
  | none => simp [eq_comm]
  | some channel => simp [Build.map_eq_error_iff, readLevel_eq_error_iff]

theorem acquireNamed_eq_error_iff {name : Value} :
    log.acquireNamed name = .error fault ↔ name.text? = none ∧ fault = .nameNotText := by
  unfold acquireNamed
  cases name.text? <;> simp [eq_comm]

theorem setLevel_eq_error_iff {handle : Handle} {level : Value} :
    log.setLevel handle level = .error fault ↔ LevelFault level fault := by
  rw [setLevel, Build.map_eq_error_iff, readLevel_eq_error_iff]

theorem level_openAt (log : Log) (name : String) (rank : Int) (sinks : Option (List Sink)) :
    ((log.openAt name rank sinks).2.channels name).level = rank := by
  simp [openAt]

theorem level_withLevel (log : Log) (name : String) (rank : Int) :
    ((log.withLevel name rank).channels name).level = rank := by
  simp [withLevel]

end Log

/-! ## Steps -/

namespace Session

variable {session : Session}

/-! ### What fails -/

theorem answer_openHandle_eq_error_iff {name level : Option Expression}
    {nameValue levelValue : Value}
    (evaluated : ((session.handleArguments name level).run session.supply).outcome =
      .ok (nameValue, levelValue)) {bound : String} {sinks : Option (List Sink)} {fault : Fault} :
    (session.operate (.openHandle bound name level sinks)).1.answer = .error fault ↔
      nameValue.text? = none ∧ fault = .nameNotText ∨
        nameValue.text?.isSome = true ∧ LevelFault levelValue fault := by
  rw [(openHandle_of_evaluated evaluated bound sinks).1, Build.map_eq_error_iff,
    Log.openHandle_eq_error_iff]

theorem answer_acquire_eq_error_iff {name : Option Expression} {nameValue : Value}
    (evaluated : ((session.evaluateOr (.text libraryChannel) name).run session.supply).outcome =
      .ok nameValue) {bound : Option String} {fault : Fault} :
    (session.operate (.acquire name bound)).1.answer = .error fault ↔
      nameValue.text? = none ∧ fault = .nameNotText := by
  rw [(acquire_of_evaluated evaluated bound).1, Build.map_eq_error_iff,
    Log.acquireNamed_eq_error_iff]

theorem answer_setLevel_eq_error_iff {bound : String} {handle : Handle} {level : Expression}
    {levelValue : Value} (isHandle : session.handle? bound = .ok handle)
    (evaluated : ((level.evaluate session.names).run session.supply).outcome = .ok levelValue)
    {fault : Fault} :
    (session.operate (.setLevel bound level)).1.answer = .error fault ↔
      LevelFault levelValue fault := by
  rw [(setLevel_of_evaluated isHandle evaluated).1, Build.map_eq_error_iff,
    Log.setLevel_eq_error_iff]

/-! ### What failing leaves -/

theorem log_operate_of_error {own : LogStep} {fault : Fault}
    (failed : (session.operate own).1.answer = .error fault) :
    (session.operate own).2.log = session.prepared (.log own) := by
  have effect := session.effect_operate own
  rw [failed] at effect
  generalize (session.operate own).2.log = after at effect ⊢
  cases effect
  rfl

theorem handles_operate_of_error {own : LogStep} {fault : Fault}
    (failed : (session.operate own).1.answer = .error fault) :
    (session.operate own).2.handles = session.handles := by
  rw [handles_operate]
  split
  case h_1 bound handle binds got =>
    cases own with
    | openHandle bound name level sinks =>
        rw [answer_openHandle got] at failed
        cases failed
    | acquire name bound =>
        rw [answer_acquire got] at failed
        cases failed
    | setCurrent | setLevel | debug | inspect | inspectCurrent => cases got
  case h_2 => rfl

/-- A step on the log gives no name to a value. -/
theorem names_operate (session : Session) (own : LogStep) :
    (session.operate own).2.names = session.names := by
  cases own with
  | openHandle bound name level sinks =>
      simp only [operate, perform_eq]
      split <;> rfl
  | acquire name bound =>
      simp only [operate, perform_eq]
      split
      case h_1 => rfl
      case h_2 => cases bound <;> rfl
  | setCurrent bound =>
      cases bound with
      | none => rfl
      | some bound =>
          rw [operate]
          cases session.handle? bound <;> rfl
  | setLevel bound level =>
      simp only [operate, perform_eq]
      cases session.handle? bound with
      | error fault => rfl
      | ok handle =>
          dsimp only
          split <;> rfl
  | debug bound message context =>
      simp only [operate, perform_eq]
      cases session.handle? bound with
      | error fault => rfl
      | ok handle =>
          dsimp only
          split
          case h_1 => rfl
          case h_2 entries evaluated => cases reservedKey? entries <;> rfl
  | inspect | inspectCurrent => rfl

/-- No record is emitted by what fails. -/
theorem ownEmissions_of_error {own : LogStep} {fault : Fault}
    (failed : (session.operate own).1.answer = .error fault) :
    session.ownEmissions (.log own) = [] := by
  cases own with
  | debug bound message context =>
      simp only [operate, perform_eq] at failed
      rw [ownEmissions]
      split
      case h_1 handle entries isHandle evaluated =>
        rw [isHandle] at failed
        dsimp only at failed
        rw [evaluated] at failed
        dsimp only at failed
        cases reserved : reservedKey? entries with
        | some key => rfl
        | none =>
            rw [reserved] at failed
            cases failed
      case h_2 => rfl
  | openHandle | acquire | setCurrent | setLevel | inspect | inspectCurrent => rfl

theorem deliveries_operate_of_error {own : LogStep} {fault : Fault}
    (failed : (session.operate own).1.answer = .error fault) :
    (session.operate own).1.deliveries =
      (session.log.announceAll (session.announced (.log own))).1 := by
  rw [deliveries_operate, ownEmissions_of_error failed, List.flatMap_nil, List.append_nil]

/-- Names that stand for values already announce nothing. -/
theorem announced_of_named {step : Step}
    (evaluated : ∀ expression ∈ step.expressions, ∃ name, expression = .named name) :
    session.announced step = [] :=
  announced_eq_nil fun expression given _ => by
    obtain ⟨name, rfl⟩ := evaluated expression given
    rfl

/-! ### What succeeds -/

theorem givesLevel_of_openHandle {name level : Option Expression} {nameValue levelValue : Value}
    (evaluated : ((session.handleArguments name level).run session.supply).outcome =
      .ok (nameValue, levelValue)) {bound : String} {sinks : Option (List Sink)} {answer : Answer}
    (answered : (session.operate (.openHandle bound name level sinks)).1.answer = .ok answer) :
    ∃ channel, nameValue.text? = some channel ∧
      GivesLevel levelValue
        ((session.operate (.openHandle bound name level sinks)).2.log.channels channel).level := by
  have effect := session.effect_operate (.openHandle bound name level sinks)
  rw [answered] at effect
  generalize (session.operate (.openHandle bound name level sinks)).2.log = after at effect ⊢
  cases effect with
  | opened evaluated' isName isLevel =>
      obtain ⟨rfl, rfl⟩ := Prod.mk.inj (Except.ok.inj (evaluated.symm.trans evaluated'))
      refine ⟨_, isName, ?_⟩
      rw [Log.level_openAt]
      exact readLevel_eq_ok_iff.mp isLevel

theorem givesLevel_of_setLevel {bound : String} {handle : Handle} {level : Expression}
    {levelValue : Value} (isHandle : session.handle? bound = .ok handle)
    (evaluated : ((level.evaluate session.names).run session.supply).outcome = .ok levelValue)
    {answer : Answer} (answered : (session.operate (.setLevel bound level)).1.answer = .ok answer) :
    GivesLevel levelValue
      ((session.operate (.setLevel bound level)).2.log.channels handle.name).level := by
  have effect := session.effect_operate (.setLevel bound level)
  rw [answered] at effect
  generalize (session.operate (.setLevel bound level)).2.log = after at effect ⊢
  cases effect with
  | leveled isHandle' evaluated' isLevel =>
      obtain rfl := Except.ok.inj (isHandle.symm.trans isHandle')
      obtain rfl := Except.ok.inj (evaluated.symm.trans evaluated')
      rw [Log.level_withLevel]
      exact readLevel_eq_ok_iff.mp isLevel

/-- A level is read and nothing else is done with it. -/
theorem operate_eq_of_readLevel_eq {left right : String} {leftValue rightValue : Value}
    (isLeft : session.names left = some leftValue) (isRight : session.names right = some rightValue)
    (same : readLevel leftValue = readLevel rightValue) (bound : String)
    (name : Option Expression) (sinks : Option (List Sink)) :
    session.operate (.setLevel bound (.named left)) =
        session.operate (.setLevel bound (.named right)) ∧
      session.operate (.openHandle bound name (some (.named left)) sinks) =
        session.operate (.openHandle bound name (some (.named right)) sinks) := by
  have arguments {given : String} {value : Value} (isValue : session.names given = some value) :
      session.handleArguments name (some (.named given)) = (do
        return (← session.evaluateOr (.text libraryChannel) name, value) :
          Build .log (Value × Value)) := by
    simp only [handleArguments, evaluateOr, Option.getD_some, Expression.evaluate, isValue,
      pure_bind]
  constructor
  · simp only [operate, Expression.evaluate, isLeft, isRight, perform_pure, Except.bind,
      Log.setLevel, same]
  · simp only [operate, arguments isLeft, arguments isRight, perform_map]
    cases (session.perform (session.evaluateOr (.text libraryChannel) name)).1 with
    | error fault => rfl
    | ok nameValue => simp only [Except.map, Except.bind, Log.openHandle, same]

/-- Whatever was done before, opening a handle fails exactly if what it is given as a name is no
text, or else if what it is given as a level is a text whose upper case names no level, or is
neither a text nor an integer.  Asking for a handle fails for such a name only, and setting a level
for such a level only.  What fails, as any step on the log that fails, gives no name to a value or a
handle, emits no record of its own, and leaves the log as its expressions left it; if these announce
nothing, as those do not that stand for values already, the log is as it was and nothing is
delivered.  What succeeds sets the channel to the rank of the level that the value names, or to the
very integer, and two texts with one upper case are the same to every step. -/
theorem log_refuses_names_and_levels_only (session : Session) :
    (∀ bound name level sinks nameValue levelValue,
        ((session.handleArguments name level).run session.supply).outcome =
          .ok (nameValue, levelValue) →
        let done := session.operate (.openHandle bound name level sinks)
        (∀ fault, done.1.answer = .error fault ↔
            nameValue.text? = none ∧ fault = .nameNotText ∨
              nameValue.text?.isSome = true ∧ LevelFault levelValue fault) ∧
          ∀ answer, done.1.answer = .ok answer → ∃ channel, nameValue.text? = some channel ∧
            GivesLevel levelValue (done.2.log.channels channel).level) ∧
      (∀ bound name nameValue,
        ((session.evaluateOr (.text libraryChannel) name).run session.supply).outcome =
          .ok nameValue →
        ∀ fault, (session.operate (.acquire name bound)).1.answer = .error fault ↔
          nameValue.text? = none ∧ fault = .nameNotText) ∧
      (∀ bound handle level levelValue, session.handle? bound = .ok handle →
        ((level.evaluate session.names).run session.supply).outcome = .ok levelValue →
        let done := session.operate (.setLevel bound level)
        (∀ fault, done.1.answer = .error fault ↔ LevelFault levelValue fault) ∧
          ∀ answer, done.1.answer = .ok answer →
            GivesLevel levelValue (done.2.log.channels handle.name).level) ∧
      (∀ levelValue fault, LevelFault levelValue fault →
        fault.category = if levelValue.text?.isSome then .unknownName else .wrongKind) ∧
      (∀ own fault, (session.operate own).1.answer = .error fault →
        let done := session.operate own
        (done.1.deliveries, done.2.log) = session.log.announceAll (session.announced (.log own)) ∧
          done.2.handles = session.handles ∧ done.2.names = session.names ∧
          (session.announced (.log own) = [] →
            done.2.log = session.log ∧ done.1.deliveries = [])) ∧
      (∀ step : Step, (∀ expression ∈ step.expressions, ∃ name, expression = .named name) →
        session.announced step = []) ∧
      ∀ left right leftValue rightValue first second,
        session.names left = some leftValue → session.names right = some rightValue →
        leftValue.text? = some first → rightValue.text? = some second →
        uppercase first = uppercase second → ∀ bound name sinks,
          session.operate (.setLevel bound (.named left)) =
              session.operate (.setLevel bound (.named right)) ∧
            session.operate (.openHandle bound name (some (.named left)) sinks) =
              session.operate (.openHandle bound name (some (.named right)) sinks) := by
  refine ⟨fun bound name level sinks nameValue levelValue evaluated => ⟨fun fault => ?_,
      fun answer answered => givesLevel_of_openHandle evaluated answered⟩,
    fun bound name nameValue evaluated fault => answer_acquire_eq_error_iff evaluated,
    fun bound handle level levelValue isHandle evaluated => ⟨fun fault => ?_,
      fun answer answered => givesLevel_of_setLevel isHandle evaluated answered⟩,
    fun levelValue fault refused => refused.category_eq, ?_,
    fun step evaluated => announced_of_named evaluated, ?_⟩
  · exact answer_openHandle_eq_error_iff evaluated
  · exact answer_setLevel_eq_error_iff isHandle evaluated
  · intro own fault failed
    have delivered := deliveries_operate_of_error failed
    have left := log_operate_of_error failed
    refine ⟨Prod.ext delivered left, handles_operate_of_error failed, session.names_operate own,
      fun silent => ?_⟩
    rw [left, prepared_of_silent silent, delivered, silent]
    exact ⟨rfl, rfl⟩
  · intro left right leftValue rightValue first second isLeft isRight isFirst isSecond same bound
      name sinks
    have read := readLevel_congr isFirst isSecond same
    exact operate_eq_of_readLevel_eq isLeft isRight read bound name sinks

/-- A text that names no level is refused and leaves the log with its global handle as it was; one
that names a level sets the channel to its rank, and names it in lower and in mixed case alike. -/
theorem log_refuses_unknown_level :
    let text (tag : Tag) (content : String) := Value.datum tag (.text content)
    let log := (Log.initial.openAt "a" 10 none).2.setCurrent (some ⟨0, "a"⟩)
    let session := ((({ initial with handles := [("handle", ⟨0, "a"⟩)], log } : Session).define
      "loud" (text 1 "loud")).define "info" (text 2 "info")).define "Info" (text 3 "Info")
    let fails := session.operate (.setLevel "handle" (.named "loud"))
    let succeeds := session.operate (.setLevel "handle" (.named "info"))
    fails.1.answer = .error (.levelUnknown "LOUD") ∧ fails.2.log = session.log ∧
      fails.1.deliveries = [] ∧
      (∃ answer, succeeds.1.answer = .ok answer) ∧ (succeeds.2.log.channels "a").level = 20 ∧
      uppercase "info" = uppercase "Info" ∧
      succeeds = session.operate (.setLevel "handle" (.named "Info")) := by
  intro text log session fails succeeds
  have handle : session.handle? "handle" = .ok ⟨0, "a"⟩ := rfl
  have loud : session.names "loud" = some (text 1 "loud") := rfl
  have info : session.names "info" = some (text 2 "info") := rfl
  have mixed : session.names "Info" = some (text 3 "Info") := rfl
  have upper : uppercase "loud" = "LOUD" := by decide
  have same : uppercase "info" = uppercase "Info" := by decide
  clear_value session
  obtain ⟨-, -, levels, -, leaves, quiet, equal⟩ := log_refuses_names_and_levels_only session
  have unknown : LevelFault (text 1 "loud") (.levelUnknown "LOUD") :=
    upper ▸ .unknown rfl (by decide)
  have evaluated {name : String} {value : Value} (named : session.names name = some value) :
      (((Expression.named name).evaluate session.names).run session.supply).outcome =
        .ok value := by
    simp only [Expression.evaluate, named, Build.run_pure]
  have failed := ((levels "handle" _ _ _ handle (evaluated loud)).1 _).mpr unknown
  obtain ⟨-, -, -, unmoved⟩ := leaves _ _ failed
  obtain ⟨unchanged, nothing⟩ := unmoved (quiet _ (by simp [Step.expressions]))
  obtain ⟨refuses, gives⟩ := levels "handle" _ _ _ handle (evaluated info)
  have given : GivesLevel (text 2 "info") 20 := .named .info rfl (by decide)
  have answered : ∃ answer, succeeds.1.answer = .ok answer := by
    cases came : succeeds.1.answer with
    | error fault =>
        have read := readLevel_eq_error_iff.mpr ((refuses fault).mp came)
        rw [readLevel_eq_ok_iff.mpr given] at read
        cases read
    | ok answer => exact ⟨answer, rfl⟩
  have level : (succeeds.2.log.channels "a").level = 20 := by
    obtain ⟨answer, answered⟩ := answered
    have read := readLevel_eq_ok_iff.mpr (gives answer answered)
    rw [readLevel_eq_ok_iff.mpr given] at read
    exact (Except.ok.inj read).symm
  exact ⟨failed, unchanged, nothing, answered, level, same,
    (equal _ _ _ _ _ _ info mixed rfl rfl same "handle" none none).1⟩

end Session
end PathSets
