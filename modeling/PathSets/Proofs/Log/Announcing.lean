import PathSets.Log.Notice

/-!
# Announcing on the library's channel

Asking for the handle of a name that the global handle has changes nothing; otherwise the channel
is configured anew, so that only warnings pass.  Announcing notices asks for the library's handle
each time, but only the first time can matter: either the records of all notices pass, or none do.
-/

namespace PathSets

/-- A channel as it is when a handle on it was opened with nothing but its name: warnings pass, and
one console gets the records. -/
def Channel.standard (console : Tag) : Channel where
  level := Level.warning.rank
  sinks := [.console console]
  propagates := false

namespace Log

/-- Whether the global handle has a name. -/
def Holds (log : Log) (name : String) : Prop :=
  log.current.map Handle.name = some name

instance (log : Log) (name : String) : Decidable (log.Holds name) :=
  inferInstanceAs (Decidable (_ = _))

/-- Whether the records of the library pass: the global handle is on its channel, and the level of
that channel is one at or below that of debugging, but not zero. -/
def Listens (log : Log) : Prop :=
  log.Holds libraryChannel ∧ (log.channels libraryChannel).level ≠ 0 ∧
    (log.channels libraryChannel).level ≤ Level.debug.rank

instance (log : Log) : Decidable log.Listens :=
  inferInstanceAs (Decidable (_ ∧ _))

/-! ## Handles of a name -/

theorem exists_acquire_of_holds {log : Log} {name : String} (holds : log.Holds name) :
    ∃ handle, log.current = some handle ∧ handle.name = name ∧
      log.acquire name = (handle, log) := by
  obtain ⟨handle, current, named⟩ := Option.map_eq_some_iff.mp holds
  refine ⟨handle, current, named, ?_⟩
  simp [acquire, current, named]

theorem acquire_of_holds {log : Log} {name : String} (holds : log.Holds name) :
    (log.acquire name).2 = log := by
  obtain ⟨handle, -, -, acquired⟩ := exists_acquire_of_holds holds
  rw [acquired]

theorem acquire_of_not_holds {log : Log} {name : String} (other : ¬log.Holds name) :
    log.acquire name = log.renew name := by
  unfold acquire
  cases current : log.current with
  | none => rfl
  | some handle =>
      have misnamed : handle.name ≠ name := by simpa [Holds, current] using other
      simp [misnamed]

theorem channels_openAt (log : Log) (name : String) (rank : Int) (sinks : Option (List Sink)) :
    (log.openAt name rank sinks).2.channels =
      log.channels.set name
        ⟨rank, distinctSinks (sinks.getD [.console log.nextConsole]), false⟩ := rfl

theorem channels_renew (log : Log) (name : String) :
    (log.renew name).2.channels = log.channels.set name (.standard log.nextConsole) := rfl

@[simp] theorem name_acquire (log : Log) (name : String) : (log.acquire name).1.name = name := by
  by_cases holds : log.Holds name
  · obtain ⟨handle, -, named, acquired⟩ := exists_acquire_of_holds holds
    rw [acquired, named]
  · rw [acquire_of_not_holds holds]
    rfl

@[simp] theorem holds_acquire (log : Log) (name : String) : (log.acquire name).2.Holds name := by
  by_cases holds : log.Holds name
  · rwa [acquire_of_holds holds]
  · rw [acquire_of_not_holds holds]
    rfl

theorem acquire_acquire (log : Log) (name : String) :
    ((log.acquire name).2.acquire name).2 = (log.acquire name).2 :=
  acquire_of_holds (log.holds_acquire name)

theorem acquire_name_of_current {log : Log} {handle : Handle}
    (current : log.current = some handle) : log.acquire handle.name = (handle, log) := by
  simp [acquire, current]

theorem holds_of_current {log : Log} {handle : Handle} (current : log.current = some handle) :
    log.Holds handle.name := by
  rw [Holds, current]
  rfl

theorem current_acquire (log : Log) (name : String) :
    (log.acquire name).2.current = some (log.acquire name).1 := by
  by_cases holds : log.Holds name
  · obtain ⟨handle, current, -, acquired⟩ := exists_acquire_of_holds holds
    rw [acquired, current]
  · rw [acquire_of_not_holds holds]
    rfl

/-- The handle of a name is the global one, or it is new. -/
theorem acquire_eq_or (log : Log) (name : String) :
    log.current = some (log.acquire name).1 ∨
      ¬log.Holds name ∧ (log.acquire name).1 = ⟨log.next, name⟩ := by
  by_cases holds : log.Holds name
  · have unchanged := log.current_acquire name
    rw [acquire_of_holds holds] at unchanged
    exact .inl unchanged
  · rw [acquire_of_not_holds holds]
    exact .inr ⟨holds, rfl⟩

theorem next_acquire (log : Log) (name : String) :
    (log.acquire name).2.next = if log.Holds name then log.next else log.next + 1 := by
  by_cases holds : log.Holds name
  · rw [acquire_of_holds holds, if_pos holds]
  · rw [acquire_of_not_holds holds, if_neg holds]
    rfl

/-- Asking for the handle of a name configures the channel of that name, and only if the global
handle does not have the name already. -/
theorem channels_acquire (log : Log) (name other : String) :
    (log.acquire name).2.channels other =
      if other = name ∧ ¬log.Holds name then .standard log.nextConsole
      else log.channels other := by
  by_cases holds : log.Holds name
  · simp [acquire_of_holds holds, holds]
  · rw [acquire_of_not_holds holds, channels_renew]
    simp [holds, Channels.set]

/-! ## The library's channel -/

theorem lineage_libraryChannel (opened : List String) :
    lineage opened libraryChannel = [libraryChannel] := rfl

theorem isEnabled_libraryChannel {log : Log} (holds : log.Holds libraryChannel) :
    log.isEnabled libraryChannel = decide log.Listens := by
  simp only [isEnabled, effectiveLevel, lineage_libraryChannel, Channels.levelAlong,
    Listens, holds, true_and]
  by_cases unset : (log.channels libraryChannel).level = 0
  · simp [unset, rootLevel, Level.rank]
  · simp [unset]

theorem recipients_libraryChannel (log : Log) :
    log.recipients libraryChannel = (log.channels libraryChannel).sinks := by
  simp [recipients, lineage_libraryChannel, Channels.sinksAlong]

theorem listens_acquire_iff (log : Log) : (log.acquire libraryChannel).2.Listens ↔ log.Listens := by
  by_cases holds : log.Holds libraryChannel
  · rw [acquire_of_holds holds]
  · have deaf : ¬(log.acquire libraryChannel).2.Listens := by
      simp [Listens, channels_acquire, holds, Channel.standard, Level.rank]
    exact iff_of_false deaf fun listens => holds listens.1

end Log

/-- The record of a notice as a sink of the library's channel gets it. -/
def Notice.delivery (notice : Notice) (sink : Sink) : Delivery where
  sink
  channel := libraryChannel
  text := recordText notice.message notice.context
  context := notice.context

namespace Log

theorem deliveries_notice {log : Log} (enabled : log.isEnabled libraryChannel = true)
    (notice : Notice) :
    log.deliveries libraryChannel notice.message notice.context =
      (log.channels libraryChannel).sinks.map notice.delivery := by
  rw [deliveries, if_pos enabled, recipients_libraryChannel]
  rfl

theorem announceAll_append (log : Log) (first second : List Notice) :
    log.announceAll (first ++ second) =
      ((log.announceAll first).1 ++ ((log.announceAll first).2.announceAll second).1,
        ((log.announceAll first).2.announceAll second).2) := by
  induction first generalizing log with
  | nil => rfl
  | cons notice rest ih => simp only [List.cons_append, announceAll, ih, List.append_assoc]

theorem announce_eq (log : Log) (notice : Notice) :
    log.announce notice =
      (if log.Listens then (log.channels libraryChannel).sinks.map notice.delivery else [],
        (log.acquire libraryChannel).2) := by
  have enabled := isEnabled_libraryChannel (log.holds_acquire libraryChannel)
  simp only [listens_acquire_iff] at enabled
  by_cases listens : log.Listens
  · rw [acquire_of_holds listens.1, decide_eq_true listens] at enabled
    simp [announce, acquire_of_holds listens.1, enabled, listens, deliveries_notice enabled]
  · simp [announce, enabled, listens]

/-- Announcing notices delivers the record of each to every sink of the library's channel, or
nothing at all, and it asks for the library's handle if there are any notices.  Whether the records
pass is settled by the first notice, which leaves the library's handle as the global one. -/
theorem announceAll_eq (log : Log) (notices : List Notice) :
    log.announceAll notices =
      (if log.Listens then
          notices.flatMap fun notice => (log.channels libraryChannel).sinks.map notice.delivery
        else [],
        if notices = [] then log else (log.acquire libraryChannel).2) := by
  induction notices generalizing log with
  | nil => simp [announceAll]
  | cons notice rest ih =>
      simp only [announceAll, announce_eq, ih, listens_acquire_iff, acquire_acquire, ite_self,
        reduceCtorEq, if_false]
      by_cases listens : log.Listens
      · simp [listens, acquire_of_holds listens.1]
      · simp [listens]

end Log
end PathSets
