import PathSets.Proofs.FirstGiven
import PathSets.Proofs.Log.Announcing

/-!
# The sinks of opened channels

Opening a channel gives it the sinks of the caller, each at the first place where it was given, or a
new console if the caller gave none.  An opened channel does not propagate, so its sinks are all
that get its records, whatever the channels above it are.  Nothing but opening a channel changes
its sinks.
-/

namespace PathSets

/-! ## Distinct sinks -/

theorem distinctSinks_append_singleton (given : List Sink) (last : Sink) :
    distinctSinks (given ++ [last]) =
      if last ∈ distinctSinks given then distinctSinks given
      else distinctSinks given ++ [last] := by
  rw [distinctSinks, List.foldl_append]
  rfl

theorem firstGiven_distinctSinks (given : List Sink) : FirstGiven given (distinctSinks given) := by
  induction given using List.reverseRecOn with
  | nil => exact .nil
  | append_singleton given last ih =>
      rw [distinctSinks_append_singleton]
      by_cases again : last ∈ distinctSinks given
      · rw [if_pos again]
        exact ih.append_of_mem again
      · rw [if_neg again]
        exact ih.append_of_not_mem again

/-! ## New consoles -/

theorem freshConsole_append_singleton (first : Tag) (given : List Sink) (last : Sink) :
    freshConsole first (given ++ [last]) =
      match last with
      | .console tag => max (freshConsole first given) (tag + 1)
      | .named _ => freshConsole first given := by
  rw [freshConsole, List.foldl_append]
  rfl

/-- A fresh tag is behind all that were given out before, and behind those of the sinks. -/
theorem freshConsole_spec (first : Tag) (given : List Sink) :
    first ≤ freshConsole first given ∧
      ∀ tag, .console tag ∈ given → tag < freshConsole first given := by
  induction given using List.reverseRecOn with
  | nil => exact ⟨Nat.le_refl first, nofun⟩
  | append_singleton given last ih =>
      obtain ⟨behind, each⟩ := ih
      rw [freshConsole_append_singleton]
      cases last with
      | named name => exact ⟨behind, fun tag member => each tag (by simpa using member)⟩
      | console own =>
          refine ⟨Nat.le_trans behind (Nat.le_max_left _ _), fun tag member => ?_⟩
          rcases List.mem_append.mp member with before | isLast
          · exact Nat.lt_of_lt_of_le (each tag before) (Nat.le_max_left _ _)
          · obtain rfl : tag = own := by simpa using isLast
            exact Nat.lt_of_lt_of_le (Nat.lt_succ_self tag) (Nat.le_max_right _ _)

/-! ## Opened channels -/

/-- An opening of a channel. -/
structure Opening where
  /-- The name of the channel. -/
  name : String
  /-- The sinks that the caller gave, if any were given. -/
  sinks : Option (List Sink)
deriving DecidableEq, Repr, Inhabited

/-- A channel is as an opening with these sinks leaves it, but for its level: it has nothing but the
console, or the sinks of the caller without repetition, and its records go to no channel above. -/
structure Channel.OpenedWith (channel : Channel) (given : Option (List Sink)) : Prop where
  console : given = none → ∃ tag, channel.sinks = [.console tag]
  firstGiven : ∀ sinks, given = some sinks → FirstGiven sinks channel.sinks
  propagates : channel.propagates = false

namespace Channel

variable {channel : Channel} {given : Option (List Sink)}

theorem openedWith_of_sinks_eq {console : Tag}
    (sinks_eq : channel.sinks = distinctSinks (given.getD [.console console]))
    (propagates : channel.propagates = false) : channel.OpenedWith given where
  console none := by
    rw [sinks_eq, none]
    exact ⟨console, rfl⟩
  firstGiven sinks given_eq := by
    rw [sinks_eq, given_eq]
    exact firstGiven_distinctSinks sinks
  propagates := propagates

theorem OpenedWith.nodup_sinks (opened : channel.OpenedWith given) : channel.sinks.Nodup := by
  cases given with
  | none =>
      obtain ⟨console, alone⟩ := opened.console rfl
      rw [alone]
      exact List.nodup_singleton _
  | some sinks => exact (opened.firstGiven sinks rfl).nodup

theorem OpenedWith.withLevel (opened : channel.OpenedWith given) (level : Int) :
    ({ channel with level } : Channel).OpenedWith given :=
  ⟨opened.console, opened.firstGiven, opened.propagates⟩

end Channel

namespace Log

variable {log : Log} {name : String}

/-- The records of a channel that does not propagate go to its own sinks, whatever the channels
above it are. -/
theorem recipients_of_not_propagates (closed : (log.channels name).propagates = false) :
    log.recipients name = (log.channels name).sinks := by
  rw [recipients, lineage, Channels.sinksAlong, closed, if_neg Bool.false_ne_true, List.append_nil]

/-! ## Consoles of channels -/

/-- The consoles that channels have bear tags below a bound. -/
def ConsolesBelow (log : Log) (bound : Tag) : Prop :=
  ∀ name tag, .console tag ∈ (log.channels name).sinks → tag < bound

/-- On the way from one log to another no tag of a console was given out again. -/
structure NumbersConsoles (before after : Log) : Prop where
  next_le : before.nextConsole ≤ after.nextConsole
  below : before.ConsolesBelow before.nextConsole → after.ConsolesBelow after.nextConsole

namespace NumbersConsoles

theorem refl (log : Log) : NumbersConsoles log log := ⟨Nat.le_refl _, id⟩

theorem trans {before between after : Log} (first : NumbersConsoles before between)
    (second : NumbersConsoles between after) : NumbersConsoles before after :=
  ⟨Nat.le_trans first.next_le second.next_le, second.below ∘ first.below⟩

theorem openAt (log : Log) (name : String) (rank : Int) (sinks : Option (List Sink)) :
    NumbersConsoles log (log.openAt name rank sinks).2 := by
  have fresh := freshConsole_spec log.nextConsole (sinks.getD [.console log.nextConsole])
  refine ⟨fresh.1, fun below other tag member => ?_⟩
  by_cases same : other = name
  · subst same
    rw [channels_openAt, Channels.set_self] at member
    exact fresh.2 tag (((firstGiven_distinctSinks _).mem_iff _).mp member)
  · rw [channels_openAt, Channels.set_of_ne _ _ same] at member
    exact Nat.lt_of_lt_of_le (below other tag member) fresh.1

theorem acquire (log : Log) (name : String) : NumbersConsoles log (log.acquire name).2 := by
  by_cases holds : log.Holds name
  · rw [acquire_of_holds holds]
    exact refl log
  · rw [acquire_of_not_holds holds]
    have opened := openAt log name Level.warning.rank none
    exact ⟨opened.next_le, opened.below⟩

theorem announceAll (log : Log) (notices : List Notice) :
    NumbersConsoles log (log.announceAll notices).2 := by
  rw [announceAll_eq]
  by_cases silent : notices = []
  · rw [if_pos silent]
    exact refl log
  · rw [if_neg silent]
    exact acquire log libraryChannel

end NumbersConsoles

/-! ## Which openings a log comes from -/

/-- The channels of a log are as the last of some openings left them, but for their levels.  The
openings are listed from the last one to the first. -/
def OpenedBy (log : Log) (history : List Opening) : Prop :=
  ∀ name opening, history.find? (·.name = name) = some opening →
    (log.channels name).OpenedWith opening.sinks

namespace OpenedBy

variable {history : List Opening}

/-- Of the openings of a channel, the last one counts. -/
theorem exists_openedWith (opened : log.OpenedBy history)
    (known : name ∈ history.map Opening.name) :
    ∃ given, history.find? (·.name = name) = some ⟨name, given⟩ ∧
      (log.channels name).OpenedWith given := by
  obtain ⟨some, member, named⟩ := List.mem_map.mp known
  cases found : history.find? (·.name = name) with
  | none => simpa [named] using List.find?_eq_none.mp found some member
  | some last =>
      have lastNamed : last.name = name := by simpa using List.find?_some found
      subst lastNamed
      exact ⟨last.sinks, rfl, opened last.name last found⟩

theorem initial : Log.initial.OpenedBy [] := by
  intro name opening found
  cases found

theorem openAt (opened : log.OpenedBy history) (name : String) (rank : Int)
    (sinks : Option (List Sink)) :
    (log.openAt name rank sinks).2.OpenedBy (⟨name, sinks⟩ :: history) := by
  intro other opening found
  by_cases same : name = other
  · subst same
    obtain rfl : ⟨name, sinks⟩ = opening := by simpa using found
    rw [channels_openAt, Channels.set_self]
    exact Channel.openedWith_of_sinks_eq rfl rfl
  · rw [channels_openAt, Channels.set_of_ne _ _ (Ne.symm same)]
    exact opened other opening (by simpa [same] using found)

theorem acquire (opened : log.OpenedBy history) (name : String) :
    (log.acquire name).2.OpenedBy
      (if log.Holds name then history else ⟨name, none⟩ :: history) := by
  by_cases holds : log.Holds name
  · rwa [acquire_of_holds holds, if_pos holds]
  · rw [acquire_of_not_holds holds, if_neg holds]
    exact opened.openAt name Level.warning.rank none

/-- Announcing something opens the library's channel, unless its handle is the global one. -/
theorem announceAll (opened : log.OpenedBy history) (notices : List Notice) :
    (log.announceAll notices).2.OpenedBy
      (if notices = [] ∨ log.Holds libraryChannel then history
        else ⟨libraryChannel, none⟩ :: history) := by
  rw [announceAll_eq]
  by_cases silent : notices = []
  · simpa [silent] using opened
  · simpa [silent] using opened.acquire libraryChannel

end OpenedBy
end Log
end PathSets
