import PathSets.Proofs.Build.Tracing
import PathSets.Proofs.Log.Sinks
import PathSets.Proofs.Session.Effects

/-!
# How channels are configured

The configuration of a channel changes in few steps only: when a handle on it is opened, when its
level is set, when its handle is asked for and is not the global one, and, for the library's
channel, when something is announced and its handle is not the global one.  Only compiling a glob
and gathering the members of a set announce anything.
-/

namespace PathSets

/-! ## Steps that announce nothing -/

namespace Build

theorem silent_siftBy (test : Subject → Except Fault Bool) (paths : Value) :
    Silent (siftBy test paths) := by
  have acts (index : Nat) (item : Value) : Silent (testMember test index item) :=
    (silent_ofExcept _).bind fun _ => silent_pure _
  rw [siftBy_eq_visit]
  exact (silent_visit acts paths).bind fun _ => silent_pure _

theorem silent_siftOf (set paths : Value) : Silent (siftOf set paths) := by
  cases set with
  | pathSet set =>
      cases set with
      | empty tag => exact silent_pure []
      | blank | single | anyOf | union | difference => exact silent_siftBy _ paths
  | _ => exact silent_siftBy _ paths

theorem silent_globOf (value : Value) : Silent (globOf value) := by
  unfold globOf
  split
  · exact silent_pure _
  · exact silent_fail _

end Build

/-- The expressions of a query, in the order in which they are written. -/
def Query.expressions : Query → List Expression
  | .define _ value => [value]
  | .test set path | .contains set path => [set, path]
  | .sift set paths => [set, paths]
  | .same left right | .compare left right => [left, right]
  | .sameChild set _ other => [set, other]
  | .distinct items => [items]

/-- The expressions of a step, in the order in which they are written. -/
def Step.expressions : Step → List Expression
  | .query asked => asked.expressions
  | .log (.openHandle _ name level _) => name.toList ++ level.toList
  | .log (.acquire name _) => name.toList
  | .log (.setLevel _ level) => [level]
  | .log (.debug _ _ context) => context.map Prod.snd
  | .log (.setCurrent _) | .log (.inspect _) | .log .inspectCurrent => []

open Build

theorem Expression.silent_evaluateSet {names : Names} {expression : Expression}
    (silent : Silent (expression.evaluate names)) (refuse : Kind → Fault) :
    Silent (expression.evaluateSet names refuse) := by
  refine silent.bind fun value => ?_
  split
  · exact silent_pure value
  · exact silent_fail _

/-- A query announces nothing but what its expressions announce. -/
theorem Query.silent_find {names : Names} {query : Query}
    (each : ∀ expression ∈ query.expressions, Silent (expression.evaluate names)) :
    Silent (query.find names) := by
  cases query with
  | define name value => exact (each value (by simp [expressions])).bind fun _ => silent_pure _
  | test set path =>
      have silentSet := Expression.silent_evaluateSet (each set (by simp [expressions]))
      exact (silentSet _).bind fun _ => (each path (by simp [expressions])).bind fun _ =>
        (silent_ofExcept _).bind fun _ => silent_pure _
  | contains set path =>
      have silentSet := Expression.silent_evaluateSet (each set (by simp [expressions]))
      exact (each path (by simp [expressions])).bind fun _ => (silentSet _).bind fun _ =>
        (silent_ofExcept _).bind fun _ => silent_pure _
  | sift set paths =>
      have silentSet := Expression.silent_evaluateSet (each set (by simp [expressions]))
      exact (silentSet _).bind fun set => (each paths (by simp [expressions])).bind fun paths =>
        (silent_siftOf set paths).bind fun _ => silent_pure _
  | same left right =>
      exact (each left (by simp [expressions])).bind fun _ =>
        (each right (by simp [expressions])).bind fun _ => silent_pure _
  | sameChild set child other =>
      exact (each set (by simp [expressions])).bind fun _ => (silent_ofExcept _).bind fun _ =>
        (each other (by simp [expressions])).bind fun _ => silent_pure _
  | compare left right =>
      refine (each left (by simp [expressions])).bind fun left =>
        (each right (by simp [expressions])).bind fun right => ?_
      split
      · exact (silent_ofExcept _).bind fun _ => (silent_ofExcept _).bind fun _ => silent_pure _
      · exact silent_pure _
  | distinct items =>
      exact (each items (by simp [expressions])).bind fun items =>
        (silent_visit (fun _ => silent_globOf) items).bind fun _ => silent_pure _

namespace Session

theorem silent_evaluateOr {session : Session} {expression : Option Expression}
    (each : ∀ given ∈ expression.toList, Silent (given.evaluate session.names)) (default : Datum) :
    Silent (session.evaluateOr default expression) := by
  cases expression with
  | none => exact silent_fresh.bind fun _ => silent_pure _
  | some given => exact each given (by simp)

theorem silent_evaluateContext {names : Names} {context : List (String × Expression)}
    (each : ∀ expression ∈ context.map Prod.snd, Silent (expression.evaluate names)) :
    Silent (evaluateContext names context) := by
  induction context with
  | nil => exact silent_pure _
  | cons entry rest ih =>
      rw [List.map_cons, List.forall_mem_cons] at each
      exact each.1.bind fun _ => (ih each.2).bind fun _ => silent_pure _

theorem silent_handleArguments {session : Session} {name level : Option Expression}
    (each : ∀ given ∈ name.toList ++ level.toList, Silent (given.evaluate session.names)) :
    Silent (session.handleArguments name level) := by
  rw [List.forall_mem_append] at each
  exact (silent_evaluateOr each.1 _).bind fun _ => (silent_evaluateOr each.2 _).bind fun _ =>
    silent_pure _

theorem announced_define (session : Session) (name : String) (expression : Expression) :
    session.announced (.query (.define name expression)) =
      expression.trace session.names session.supply := by
  rw [announced, Query.find, Build.notices_bind_of_silent _ fun _ => Build.silent_pure _,
    expression.notices_evaluate]

/-- A step announces nothing but what its expressions announce. -/
theorem announced_eq_nil {session : Session} {step : Step}
    (each : ∀ expression ∈ step.expressions, ∀ supply,
      expression.trace session.names supply = []) :
    session.announced step = [] := by
  have silent (expression : Expression) (given : expression ∈ step.expressions) :
      Silent (expression.evaluate session.names) := fun supply =>
    (expression.notices_evaluate session.names supply).trans (each expression given supply)
  rcases step with query | step
  · exact Query.silent_find silent session.supply
  · cases step with
    | openHandle bound name level sinks => exact silent_handleArguments silent session.supply
    | acquire name bound => exact silent_evaluateOr silent _ session.supply
    | setLevel bound level =>
        rw [announced]
        cases session.handle? bound with
        | error fault => rfl
        | ok handle => exact silent level (by simp [Step.expressions]) session.supply
    | debug bound message context =>
        rw [announced]
        cases session.handle? bound with
        | error fault => rfl
        | ok handle => exact silent_evaluateContext silent session.supply
    | setCurrent | inspect | inspectCurrent => rfl

end Session

namespace Notice

theorem ofSource_eq_nil_iff {value : Value} : ofSource value = [] ↔ value.text? = none := by
  simp [ofSource]

theorem ofMembers_eq_nil_iff {members : List Value} :
    ofMembers members = [] ↔ ∀ first ∈ members.head?, first.text? = none := by
  rcases members with _ | ⟨first, rest⟩
  · simp
  · cases text : first.text? with
    | none => simp [ofMembers_cons_of_not_text text, text]
    | some source => simp [ofMembers_cons_of_text text, text]

theorem ofSetLike_eq_nil_iff {supply : Supply} {value : Value} :
    ofSetLike supply value = [] ↔ value.text? = none ∧ value.isSequence = false := by
  unfold ofSetLike
  cases text : value.text? with
  | none => cases value.isSequence <;> simp
  | some source => simp

end Notice

/-- Which ways of making a set announce nothing: a glob of what is no text, a sequence of globs
without a text at its head, the set of what is neither a text nor a sequence, and all unions and
differences. -/
theorem Build.notices_eq_nil_iff (supply : Supply) (value other : Value) :
    (((single value).run supply).notices = [] ↔ value.text? = none) ∧
      (((anyOf value).run supply).notices = [] ↔
        ∀ first ∈ (supply.membersOf value).head?, first.text? = none) ∧
      (((toSet value).run supply).notices = [] ↔
        value.text? = none ∧ value.isSequence = false) ∧
      ((union value).run supply).notices = [] ∧
      ((difference value other).run supply).notices = [] := by
  rw [notices_single, notices_anyOf, notices_toSet]
  exact ⟨Notice.ofSource_eq_nil_iff, Notice.ofMembers_eq_nil_iff, Notice.ofSetLike_eq_nil_iff,
    silent_union value supply, silent_difference value other supply⟩

/-! ## One step -/

namespace Session

/-- How a step configures the channel of a name by its own work, on the log that its expressions
leave.  An opened channel has the level and the sinks that were given, or a new console; setting a
level keeps all else; and asking for the handle of a name that the global handle does not have opens
the channel at the level of warnings, with nothing but a new console. -/
inductive Configures (session : Session) (name : String) : Step → Channel → Prop where
  | opened {bound : String} {nameGiven levelGiven : Option Expression}
      {sinks : Option (List Sink)} {nameValue levelValue : Value} {rank : Int}
      (evaluated : ((session.handleArguments nameGiven levelGiven).run session.supply).outcome =
        .ok (nameValue, levelValue))
      (isName : nameValue.text? = some name) (isLevel : readLevel levelValue = .ok rank) :
      Configures session name (.log (.openHandle bound nameGiven levelGiven sinks))
        ⟨rank, distinctSinks (sinks.getD [.console
          (session.prepared (.log (.openHandle bound nameGiven levelGiven sinks))).nextConsole]),
          false⟩
  | leveled {bound : String} {levelGiven : Expression} {handle : Handle} {levelValue : Value}
      {rank : Int} (isHandle : session.handle? bound = .ok handle) (named : handle.name = name)
      (evaluated : ((levelGiven.evaluate session.names).run session.supply).outcome =
        .ok levelValue)
      (isLevel : readLevel levelValue = .ok rank) :
      Configures session name (.log (.setLevel bound levelGiven))
        { (session.prepared (.log (.setLevel bound levelGiven))).channels name with level := rank }
  | acquired {bound : Option String} {nameGiven : Option Expression} {nameValue : Value}
      (evaluated : ((session.evaluateOr (.text libraryChannel) nameGiven).run
        session.supply).outcome = .ok nameValue)
      (isName : nameValue.text? = some name)
      (other : ¬(session.prepared (.log (.acquire nameGiven bound))).Holds name) :
      Configures session name (.log (.acquire nameGiven bound))
        ⟨30, [.console (session.prepared (.log (.acquire nameGiven bound))).nextConsole], false⟩

/-- The expressions of a step open the channel of a name anew: it is the library's, they announce
something, and the library's handle is not the global one. -/
def Renews (session : Session) (name : String) (step : Step) : Prop :=
  name = libraryChannel ∧ session.announced step ≠ [] ∧ ¬session.log.Holds libraryChannel

variable {session : Session} {name : String} {step : Step}

theorem channels_prepared_of_renews (renews : session.Renews name step) :
    (session.prepared step).channels name = ⟨30, [.console session.log.nextConsole], false⟩ := by
  obtain ⟨rfl, loud, other⟩ := renews
  rw [prepared, Log.announceAll_eq, if_neg loud, Log.channels_acquire, if_pos ⟨rfl, other⟩]
  rfl

theorem channels_prepared_of_not_renews (quiet : ¬session.Renews name step) :
    (session.prepared step).channels name = session.log.channels name := by
  rw [prepared, Log.announceAll_eq]
  by_cases silent : session.announced step = []
  · rw [if_pos silent]
  · rw [if_neg silent, Log.channels_acquire, if_neg]
    exact fun opened => quiet ⟨opened.1, silent, opened.1 ▸ opened.2⟩

/-- What a step on the log does to the channel of a name is how it configures it, or nothing. -/
theorem channels_effect {own : LogStep} {answer : Except Fault Answer} {after : Log}
    (effect : own.Effect session (session.prepared (.log own)) answer after) (name : String) :
    session.Configures name (.log own) (after.channels name) ∨
      after.channels name = (session.prepared (.log own)).channels name := by
  cases effect with
  | @opened bound nameGiven levelGiven sinks _ _ channel rank evaluated isName isLevel =>
      by_cases named : name = channel
      · subst named
        left
        rw [Log.channels_openAt, Channels.set_self]
        exact .opened evaluated isName isLevel
      · exact .inr (Channels.set_of_ne _ _ named)
  | @acquired nameGiven bound _ channel _ evaluated isName =>
      rw [Log.channels_acquire]
      split
      case isTrue opened =>
        obtain ⟨rfl, other⟩ := opened
        exact .inl (.acquired evaluated isName other)
      case isFalse => exact .inr rfl
  | @leveled bound _ handle _ rank isHandle evaluated isLevel =>
      by_cases named : name = handle.name
      · subst named
        left
        rw [Log.channels_withLevel, Channels.set_self]
        exact .leveled isHandle rfl evaluated isLevel
      · exact .inr (Channels.set_of_ne _ _ named)
  | failed | dismissed | changed | emitted | inspected | inspectedCurrent => exact .inr rfl

theorem channels_step_cases (session : Session) (name : String) (step : Step) :
    session.Configures name step ((session.step step).2.log.channels name) ∨
      (session.step step).2.log.channels name = (session.prepared step).channels name := by
  cases step with
  | query query =>
      exact .inr (congrArg (fun log : Log => log.channels name) (session.log_ask query))
  | log own => exact channels_effect (session.effect_operate own) name

/-- A step that configures a channel succeeds and leaves the channel so. -/
theorem exists_answer_of_configures {channel : Channel}
    (configures : session.Configures name step channel) :
    (∃ answer, (session.step step).1.answer = .ok answer) ∧
      (session.step step).2.log.channels name = channel := by
  cases configures with
  | @opened bound nameGiven levelGiven sinks _ _ rank evaluated isName isLevel =>
      obtain ⟨answer_eq, log_eq⟩ := openHandle_of_evaluated evaluated bound sinks
      simp only [Log.openHandle, isName, isLevel, Except.map, Except.toOption, Option.map_some,
        Option.getD_some] at answer_eq log_eq
      refine ⟨⟨_, answer_eq⟩, ?_⟩
      rw [Session.step, log_eq]
      exact Channels.set_self ..
  | @leveled bound _ handle _ rank isHandle named evaluated isLevel =>
      obtain ⟨answer_eq, log_eq⟩ := setLevel_of_evaluated isHandle evaluated
      simp only [Log.setLevel, isLevel, Except.map, Except.toOption, Option.getD_some]
        at answer_eq log_eq
      refine ⟨⟨_, answer_eq⟩, ?_⟩
      rw [Session.step, log_eq, ← named]
      exact Channels.set_self ..
  | @acquired bound nameGiven _ evaluated isName other =>
      obtain ⟨answer_eq, log_eq⟩ := acquire_of_evaluated evaluated bound
      simp only [Log.acquireNamed, isName, Except.map, Except.toOption, Option.map_some,
        Option.getD_some] at answer_eq log_eq
      refine ⟨⟨_, answer_eq⟩, ?_⟩
      rw [Session.step, log_eq]
      exact (Log.channels_acquire _ name name).trans (if_pos ⟨rfl, other⟩)

theorem channels_step_of_not_configures
    (others : ∀ channel, ¬session.Configures name step channel) :
    (session.step step).2.log.channels name = (session.prepared step).channels name :=
  (session.channels_step_cases name step).resolve_left (others _)

theorem channels_step_of_not_renews (quiet : ¬session.Renews name step)
    (others : ∀ channel, ¬session.Configures name step channel) :
    (session.step step).2.log.channels name = session.log.channels name := by
  rw [channels_step_of_not_configures others, channels_prepared_of_not_renews quiet]

/-! ## Whole runs -/

theorem run_append (session : Session) (front rest : List Step) :
    (session.run (front ++ rest)).2 = ((session.run front).2.run rest).2 := by
  induction front generalizing session with
  | nil => rfl
  | cons step front ih => exact ih (session.step step).2

theorem channels_run_of_not_configures {session : Session} {name : String} {steps : List Step}
    (others : ∀ front step rest, steps = front ++ step :: rest →
      ¬(session.run front).2.Renews name step ∧
        ∀ channel, ¬(session.run front).2.Configures name step channel) :
    (session.run steps).2.log.channels name = session.log.channels name := by
  induction steps generalizing session with
  | nil => rfl
  | cons step rest ih =>
      obtain ⟨quiet, other⟩ := others [] step rest rfl
      have first : (session.step step).2.log.channels name = session.log.channels name :=
        channels_step_of_not_renews quiet other
      have later : ((session.step step).2.run rest).2.log.channels name =
          (session.step step).2.log.channels name :=
        ih fun front next behind split => others (step :: front) next behind (by rw [split]; rfl)
      exact later.trans first

theorem numbersConsoles_effect {session : Session} {log after : Log} {own : LogStep}
    {answer : Except Fault Answer} (effect : own.Effect session log answer after) :
    log.NumbersConsoles after := by
  cases effect with
  | opened => exact .openAt _ _ _ _
  | acquired => exact .acquire _ _
  | @leveled _ _ handle _ rank _ _ _ =>
      refine ⟨Nat.le_refl _, fun below other tag member => ?_⟩
      by_cases same : other = handle.name
      · subst same
        rw [Log.channels_withLevel, Channels.set_self] at member
        exact below _ tag member
      · rw [Log.channels_withLevel, Channels.set_of_ne _ _ same] at member
        exact below other tag member
  | failed | dismissed | changed | emitted | inspected | inspectedCurrent =>
      exact ⟨Nat.le_refl _, id⟩

theorem numbersConsoles_prepared (session : Session) (step : Step) :
    session.log.NumbersConsoles (session.prepared step) :=
  .announceAll _ _

theorem numbersConsoles_step (session : Session) (step : Step) :
    session.log.NumbersConsoles (session.step step).2.log := by
  have prepared := session.numbersConsoles_prepared step
  cases step with
  | query query =>
      rw [Session.step, log_ask]
      exact prepared
  | log own => exact prepared.trans (numbersConsoles_effect (session.effect_operate own))

theorem numbersConsoles_run (session : Session) (steps : List Step) :
    session.log.NumbersConsoles (session.run steps).2.log := by
  induction steps generalizing session with
  | nil => exact .refl _
  | cons step rest ih => exact (session.numbersConsoles_step step).trans (ih _)

/-- The consoles that channels had at some point of a run have tags below all that are given out
later. -/
theorem consolesBelow_run_initial (front rest : List Step) :
    (initial.run front).2.log.ConsolesBelow (initial.run (front ++ rest)).2.log.nextConsole := by
  have before := (initial.numbersConsoles_run front).below nofun
  have later := ((initial.run front).2.numbersConsoles_run rest).next_le
  rw [run_append]
  exact fun name tag member => Nat.lt_of_lt_of_le (before name tag member) later

/-- The channel of a name is configured in four kinds of steps only, over every run: opening a
handle on it; setting its level, which keeps its sinks; asking for its handle while that is not the
global one; and, if it is the library's, announcing something while the library's handle is not the
global one.  The last two leave it at level 30 with nothing but a new console, which no channel has
or had.  A step that fails does none of the first three.  What a step announces is what its
expressions announce, which is their trace: nothing comes of making a set from what is neither a
text nor a sequence, nor of a sequence without a text at its head, nor of making a union or a
difference. -/
theorem channels_run_eq_configured (session : Session) (name : String) :
    (∀ front step,
      let before := (session.run front).2
      let after := (session.run (front ++ [step])).2
      let prepared := before.prepared step
      (name = "fileglob" ∧ before.announced step ≠ [] ∧ ¬before.log.Holds "fileglob" →
          prepared.channels name = ⟨30, [.console before.log.nextConsole], false⟩) ∧
        (¬(name = "fileglob" ∧ before.announced step ≠ [] ∧ ¬before.log.Holds "fileglob") →
          prepared.channels name = before.log.channels name) ∧
        (∀ channel, before.Configures name step channel →
          after.log.channels name = channel) ∧
        ((∀ channel, ¬before.Configures name step channel) →
          after.log.channels name = prepared.channels name) ∧
        ∀ fault, (before.step step).1.answer = .error fault →
          ∀ channel, ¬before.Configures name step channel) ∧
      (∀ steps, (∀ front step rest, steps = front ++ step :: rest →
          ¬(session.run front).2.Renews name step ∧
            ∀ channel, ¬(session.run front).2.Configures name step channel) →
        (session.run steps).2.log.channels name = session.log.channels name) ∧
      (∀ front rest step,
        let reached := (initial.run (front ++ rest)).2
        (initial.run front).2.log.ConsolesBelow reached.log.nextConsole ∧
          (reached.prepared step).ConsolesBelow (reached.prepared step).nextConsole ∧
          reached.log.nextConsole ≤ (reached.prepared step).nextConsole) ∧
      (∀ step, (∀ expression ∈ Step.expressions step, ∀ supply,
          expression.trace session.names supply = []) → session.announced step = []) ∧
      (∀ bound expression, session.announced (.query (.define bound expression)) =
        expression.trace session.names session.supply) ∧
      ∀ (supply : Supply) (value other : Value),
        (((single value).run supply).notices = [] ↔ value.text? = none) ∧
          (((anyOf value).run supply).notices = [] ↔
            ∀ first ∈ (supply.membersOf value).head?, first.text? = none) ∧
          (((toSet value).run supply).notices = [] ↔
            value.text? = none ∧ value.isSequence = false) ∧
          ((union value).run supply).notices = [] ∧
          ((difference value other).run supply).notices = [] := by
  refine ⟨fun front step => ?_, fun steps others => channels_run_of_not_configures others,
    fun front rest step => ?_, fun step each => announced_eq_nil each, session.announced_define,
    notices_eq_nil_iff⟩
  · have stepped : (session.run (front ++ [step])).2 = ((session.run front).2.step step).2 :=
      session.run_append front [step]
    rw [stepped]
    refine ⟨channels_prepared_of_renews, channels_prepared_of_not_renews,
      fun channel configures => (exists_answer_of_configures configures).2,
      channels_step_of_not_configures, fun fault failed channel configures => ?_⟩
    obtain ⟨⟨answer, answered⟩, -⟩ := exists_answer_of_configures configures
    rw [failed] at answered
    cases answered
  · have reached := consolesBelow_run_initial (front ++ rest) []
    rw [List.append_nil] at reached
    have prepared := (initial.run (front ++ rest)).2.numbersConsoles_prepared step
    exact ⟨consolesBelow_run_initial front rest, prepared.below reached, prepared.next_le⟩

/-- With the library's handle as the global one, making a set leaves its channel alone, and so does
giving the handle up afterwards.  Once it is given up, making a set opens the channel anew. -/
theorem channels_run_of_held_handle :
    let log := (Log.initial.openAt libraryChannel 10 (some [.named "sink"])).2.setCurrent
      (some ⟨0, libraryChannel⟩)
    let session : Session := { Session.initial with log }
    let makes : Step := .query (.define "set" (.toSet (.constant (.text "*"))))
    let steps : List Step := [makes, .log (.setCurrent none)]
    (∀ front step rest, steps = front ++ step :: rest →
        ¬(session.run front).2.Renews "fileglob" step ∧
          ∀ channel, ¬(session.run front).2.Configures "fileglob" step channel) ∧
      (session.run steps).2.log.channels "fileglob" = ⟨10, [.named "sink"], false⟩ ∧
      ((session.run steps).2.prepared makes).channels "fileglob" = ⟨30, [.console 0], false⟩ ∧
      session.announced (.query (.sift .sharedEmpty (.named "paths"))) = [] := by
  intro log session makes steps
  have others : ∀ front step rest, steps = front ++ step :: rest →
      ¬(session.run front).2.Renews "fileglob" step ∧
        ∀ channel, ¬(session.run front).2.Configures "fileglob" step channel := by
    intro front step rest split
    rcases front with _ | ⟨first, _ | ⟨second, front⟩⟩
    · obtain ⟨rfl, rfl⟩ := List.cons.inj split
      exact ⟨fun renews => renews.2.2 rfl,
        fun channel (configures : session.Configures _ (.query _) channel) => nomatch configures⟩
    · obtain ⟨-, split⟩ := List.cons.inj split
      obtain ⟨rfl, rfl⟩ := List.cons.inj split
      exact ⟨fun renews => renews.2.1 rfl, fun _ configures => nomatch configures⟩
    · simp [steps] at split
  obtain ⟨stepped, unchanged, -, quiet, -⟩ := channels_run_eq_configured session "fileglob"
  have renewed := (stepped steps makes).1 ⟨rfl, by decide, by decide⟩
  refine ⟨others, (unchanged steps others).trans rfl, renewed.trans rfl, quiet _ ?_⟩
  intro expression given supply
  simp only [Step.expressions, Query.expressions, List.mem_cons, List.not_mem_nil, or_false]
    at given
  rcases given with rfl | rfl <;> rfl

end Session
end PathSets
