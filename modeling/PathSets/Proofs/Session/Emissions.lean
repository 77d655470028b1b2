import PathSets.Proofs.Session.Handles

/-!
# Where records go

A step emits a record on the library's channel for everything that it announces, and a debugging
step one more on the channel of its handle.  All of these channels were opened.  So a record that
passes goes to the sinks of its own channel, to each of them once and in their order, and to no
other sink, whatever sinks the channels above have.
-/

namespace PathSets

/-- A record that is emitted. -/
structure Emission where
  /-- The channel that it is emitted on. -/
  channel : String
  /-- The message. -/
  message : String
  /-- What it is emitted with. -/
  context : List (String × String)
deriving DecidableEq, Repr, Inhabited

/-- The record of a notice. -/
def Notice.emission (notice : Notice) : Emission where
  channel := libraryChannel
  message := notice.message
  context := notice.context

/-- What is delivered when a record is emitted. -/
def Log.emit (log : Log) (emission : Emission) : List Delivery :=
  log.deliveries emission.channel emission.message emission.context

/-- A record is delivered to the sinks of a list: once to each of them, in their order, and to no
other sink; and each of them gets the record as it was emitted. -/
structure Emission.DeliveredTo (emission : Emission) (sinks : List Sink)
    (deliveries : List Delivery) : Prop where
  ordered : deliveries.map Delivery.sink = sinks
  once : ∀ sink, (deliveries.map Delivery.sink).count sink = if sink ∈ sinks then 1 else 0
  asEmitted : ∀ delivery ∈ deliveries, delivery.channel = emission.channel ∧
    delivery.text = recordText emission.message emission.context ∧
      delivery.context = emission.context

namespace Log

variable {log : Log}

theorem emit_of_disabled {emission : Emission} (disabled : log.isEnabled emission.channel = false) :
    log.emit emission = [] :=
  if_neg (Bool.eq_false_iff.mp disabled)

/-- On an opened channel, a record that passes goes to the sinks of the channel. -/
theorem deliveredTo_of_openedWith {emission : Emission} {given : Option (List Sink)}
    (opened : (log.channels emission.channel).OpenedWith given)
    (enabled : log.isEnabled emission.channel = true) :
    emission.DeliveredTo (log.channels emission.channel).sinks (log.emit emission) := by
  have emit_eq : log.emit emission = (log.channels emission.channel).sinks.map fun sink =>
      { sink, channel := emission.channel, text := recordText emission.message emission.context,
        context := emission.context } := by
    rw [emit, deliveries, if_pos enabled, recipients_of_not_propagates opened.propagates]
  have ordered : (log.emit emission).map Delivery.sink = (log.channels emission.channel).sinks := by
    rw [emit_eq, List.map_map]
    exact List.map_id _
  refine ⟨ordered, fun sink => ?_, fun delivery member => ?_⟩
  · rw [ordered, opened.nodup_sinks.count]
  · rw [emit_eq] at member
    obtain ⟨sink, -, rfl⟩ := List.mem_map.mp member
    exact ⟨rfl, rfl, rfl⟩

/-- The records of notices are delivered as the log has it that announcing them leaves. -/
theorem deliveries_announceAll (log : Log) (notices : List Notice) :
    (log.announceAll notices).1 =
      (notices.map Notice.emission).flatMap (log.announceAll notices).2.emit := by
  rw [announceAll_eq]
  by_cases silent : notices = []
  · simp [silent]
  · rw [if_neg silent, List.flatMap_map]
    have enabled := isEnabled_libraryChannel (log.holds_acquire libraryChannel)
    simp only [listens_acquire_iff] at enabled
    by_cases listens : log.Listens
    · rw [decide_eq_true listens, acquire_of_holds listens.1] at enabled
      rw [if_pos listens, acquire_of_holds listens.1]
      exact List.flatMap_congr fun notice _ => (deliveries_notice enabled notice).symm
    · rw [decide_eq_false listens] at enabled
      have nothing (notice : Notice) :
          (log.acquire libraryChannel).2.emit notice.emission = [] :=
        emit_of_disabled enabled
      simp [listens, nothing]

end Log

namespace Session

/-- The record that a step emits by its own work, when its expressions are evaluated. -/
def ownEmissions (session : Session) : Step → List Emission
  | .log (.debug bound message context) =>
      match session.handle? bound,
          ((evaluateContext session.names context).run session.supply).outcome with
      | .ok handle, .ok entries =>
          if (reservedKey? entries).isNone then
            [⟨handle.name, message, entries.foldl setContext []⟩]
          else []
      | _, _ => []
  | _ => []

/-- The records that a step emits, in order. -/
def emissions (session : Session) (step : Step) : List Emission :=
  (session.announced step).map Notice.emission ++ session.ownEmissions step

/-- What a step on the log delivers: first what its expressions announce, then its own record. -/
theorem deliveries_operate (session : Session) (own : LogStep) :
    (session.operate own).1.deliveries =
      (session.log.announceAll (session.announced (.log own))).1 ++
        (session.ownEmissions (.log own)).flatMap (session.prepared (.log own)).emit := by
  cases own with
  | openHandle bound name level sinks =>
      simp only [operate, perform_eq, ownEmissions, List.flatMap_nil, List.append_nil]
      split <;> rfl
  | acquire name bound =>
      simp only [operate, perform_eq, ownEmissions, List.flatMap_nil, List.append_nil]
      split <;> rfl
  | setCurrent bound =>
      cases bound with
      | none => rfl
      | some name =>
          rw [operate]
          cases session.handle? name <;> rfl
  | setLevel bound level =>
      simp only [operate, perform_eq, announced, ownEmissions, List.flatMap_nil, List.append_nil]
      cases session.handle? bound with
      | error fault => rfl
      | ok handle =>
          dsimp only
          split <;> rfl
  | debug bound message context =>
      simp only [operate, perform_eq, announced, prepared, ownEmissions]
      cases session.handle? bound with
      | error fault => rfl
      | ok handle =>
          dsimp only
          cases ((evaluateContext session.names context).run session.supply).outcome with
          | error fault => exact (List.append_nil _).symm
          | ok entries =>
              dsimp only
              cases reservedKey? entries with
              | some key => exact (List.append_nil _).symm
              | none => exact congrArg _ (List.append_nil _).symm
  | inspect | inspectCurrent => rfl

/-- Everything that a step delivers comes of the records that it emits. -/
theorem deliveries_step (session : Session) (step : Step) :
    (session.step step).1.deliveries =
      (session.emissions step).flatMap (session.prepared step).emit := by
  have announced : (session.log.announceAll (session.announced step)).1 =
      ((session.announced step).map Notice.emission).flatMap (session.prepared step).emit :=
    session.log.deliveries_announceAll _
  rw [emissions, List.flatMap_append, ← announced]
  cases step with
  | query query => exact (session.deliveries_ask query).trans (List.append_nil _).symm
  | log own => exact session.deliveries_operate own

variable {session : Session} {history : List Opening}

/-- The channels that a step emits records on were opened. -/
theorem ComesFrom.channel_mem (origin : session.ComesFrom history) {step : Step}
    {emission : Emission} (member : emission ∈ session.emissions step) :
    emission.channel ∈ (session.announcedOpenings step ++ history).map Opening.name := by
  rw [List.map_append, List.mem_append]
  rcases List.mem_append.mp member with announced | own
  · obtain ⟨notice, given, rfl⟩ := List.mem_map.mp announced
    by_cases holds : session.log.Holds libraryChannel
    · obtain ⟨handle, current, named, -⟩ := Log.exists_acquire_of_holds holds
      right
      have known := origin.named handle (.inl current)
      rwa [named] at known
    · left
      have loud : ¬(session.announced step = [] ∨ session.log.Holds libraryChannel) :=
        not_or.mpr ⟨List.ne_nil_of_mem given, holds⟩
      rw [announcedOpenings, if_neg loud]
      exact List.mem_singleton_self _
  · right
    unfold ownEmissions at own
    split at own
    case h_1 bound message context =>
      split at own
      case h_1 handle entries isHandle evaluated =>
        split at own
        case isTrue =>
          obtain rfl := List.mem_singleton.mp own
          exact origin.named handle (knows_of_handle?_eq_ok isHandle)
        case isFalse => cases own
      case h_2 => cases own
    case h_2 => cases own

/-- Along every run, an opened channel is as its last opening left it, but for its level: it has
nothing but the console, or the sinks of a caller without repetition and in first-given order, and
it does not propagate; all handles are on such channels.  Everything that is delivered comes of
records on such channels, and a record that passes goes to the sinks of its own channel, once to
each and in their order. -/
theorem channels_and_deliveries_of_run (steps : List Step) :
    let session := (initial.run steps).2
    let history := initial.openingsAlong steps
    (∀ name ∈ history.map Opening.name, ∃ given,
        history.find? (·.name = name) = some ⟨name, given⟩ ∧
          (session.log.channels name).OpenedWith given) ∧
      (∀ handle, session.Knows handle → handle.name ∈ history.map Opening.name) ∧
      (∀ emission : Emission, emission.channel ∈ history.map Opening.name →
        if session.log.isEnabled emission.channel then
          emission.DeliveredTo (session.log.channels emission.channel).sinks
            (session.log.emit emission)
        else session.log.emit emission = []) ∧
      ∀ step,
        let log := session.prepared step
        let history := session.announcedOpenings step ++ history
        (session.step step).1.deliveries = (session.emissions step).flatMap log.emit ∧
          ∀ emission ∈ session.emissions step,
            (∃ given, history.find? (·.name = emission.channel) = some ⟨emission.channel, given⟩ ∧
                (log.channels emission.channel).OpenedWith given) ∧
              if log.isEnabled emission.channel then
                emission.DeliveredTo (log.channels emission.channel).sinks (log.emit emission)
              else log.emit emission = [] := by
  intro session history
  have origin := comesFrom_run_initial steps
  have delivered {log : Log} {history : List Opening} (opened : log.OpenedBy history)
      (emission : Emission) (known : emission.channel ∈ history.map Opening.name) :
      if log.isEnabled emission.channel then
        emission.DeliveredTo (log.channels emission.channel).sinks (log.emit emission)
      else log.emit emission = [] := by
    obtain ⟨given, -, openedWith⟩ := opened.exists_openedWith known
    split
    case isTrue enabled => exact Log.deliveredTo_of_openedWith openedWith enabled
    case isFalse disabled => exact Log.emit_of_disabled (Bool.eq_false_iff.mpr disabled)
  refine ⟨fun name known => origin.openedBy.exists_openedWith known, origin.named,
    delivered origin.openedBy, fun step => ⟨session.deliveries_step step, ?_⟩⟩
  intro emission member
  have prepared := openedBy_prepared origin.openedBy step
  have known := origin.channel_mem member
  exact ⟨prepared.exists_openedWith known, delivered prepared emission known⟩

/-- A channel below another one is opened twice, with a sink that is given twice.  The sinks of its
first opening and of the channel above get nothing. -/
theorem deliveredTo_of_channel_below_another :
    let opening (bound name : String) (sinks : List Sink) : Step :=
      .log (.openHandle bound (some (.constant (.text name))) (some (.constant (.level .debug)))
        (some sinks))
    let steps := [opening "above" "a" [.named "x"], opening "first" "a.b" [.console 0],
      opening "second" "a.b" [.named "y", .named "z", .named "y"]]
    let session := (initial.run steps).2
    let step : Step := .log (.debug "second" "message" [])
    let emission : Emission := ⟨"a.b", "message", []⟩
    (∃ given, (initial.openingsAlong steps).find? (·.name = "a.b") = some ⟨"a.b", given⟩ ∧
        (session.log.channels "a.b").OpenedWith given) ∧
      emission.DeliveredTo [.named "y", .named "z"] (session.log.emit emission) ∧
      emission ∈ session.emissions step ∧
      emission.DeliveredTo [.named "y", .named "z"] ((session.prepared step).emit emission) := by
  intro opening steps session step emission
  obtain ⟨configured, known, delivered, emitted⟩ := channels_and_deliveries_of_run steps
  have bound : session.Knows ⟨2, "a.b"⟩ := .inr ⟨"second", by decide⟩
  have opened := known ⟨2, "a.b"⟩ bound
  have enabled : session.log.isEnabled emission.channel = true := by decide
  have direct := delivered emission opened
  rw [if_pos enabled] at direct
  have member : emission ∈ session.emissions step := by decide
  have stepped := ((emitted step).2 emission member).2
  have stillEnabled : (session.prepared step).isEnabled emission.channel = true := by decide
  rw [if_pos stillEnabled] at stepped
  exact ⟨configured "a.b" opened, direct, member, stepped⟩

end Session
end PathSets
