import PathSets.Proofs.Build.Making
import PathSets.Proofs.Session.Configuration
import PathSets.Proofs.Session.Emissions

/-!
# Making a set of globs one by one and at once

A set of globs is made of a sequence in two ways: its members are taken one by one, or they are
gathered first.  The outcome is the same either way.  Gathering is announced, so it makes sure of
the library's handle whatever the members are; members taken one by one do so only with the first
text.
-/

namespace PathSets

open Build

namespace Log

/-- Whatever is announced, if anything is, gets delivered as the log has it in which the library's
handle is the global one. -/
theorem announceAll_eq_emit (log : Log) (notices : List Notice) :
    log.announceAll notices =
      ((notices.map Notice.emission).flatMap (log.acquire libraryChannel).2.emit,
        if notices = [] then log else (log.acquire libraryChannel).2) := by
  have left : (log.announceAll notices).2 =
      if notices = [] then log else (log.acquire libraryChannel).2 := by
    rw [announceAll_eq]
  have delivered : (log.announceAll notices).1 =
      (notices.map Notice.emission).flatMap (log.acquire libraryChannel).2.emit := by
    by_cases silent : notices = []
    · rw [silent]
      rfl
    · rw [deliveries_announceAll, left, if_neg silent]
  exact Prod.ext delivered left

/-- The record of a notice passes to every sink of the library's channel, or to none. -/
theorem emit_emission (log : Log) (notice : Notice) :
    log.emit notice.emission =
      if log.isEnabled libraryChannel then (log.channels libraryChannel).sinks.map notice.delivery
      else [] := by
  rw [← recipients_libraryChannel]
  rfl

end Log

namespace Session

variable {value : Value}

theorem perform_anyOf (session : Session) (iterable : value.members ≠ .absent) :
    let members := session.supply.membersOf value
    let outcome := globSet session.supply.next members
    session.perform (anyOf value) =
      (outcome,
        ((Notice.ofMembers members).map Notice.emission).flatMap
          (session.log.acquire libraryChannel).2.emit,
        { session with
          supply := (session.supply.leaveTo value (behindTexts members)).tagged outcome
          log := if ∀ first ∈ members.head?, first.text? = none then session.log
            else (session.log.acquire libraryChannel).2 }) := by
  simp only [perform_eq, run_anyOf iterable, Log.announceAll_eq_emit, Notice.ofMembers_eq_nil_iff]

theorem perform_toSet_of_isSequence (session : Session) (isSequence : value.isSequence = true) :
    let members := session.supply.membersOf value
    let outcome := globSet session.supply.next members
    let log := (session.log.acquire libraryChannel).2
    session.perform (toSet value) =
      (outcome,
        log.emit (Notice.gathering members).emission ++
          ((Notice.ofMembers members).map Notice.emission).flatMap log.emit,
        { session with
          supply := (session.supply.leaveTo value []).tagged outcome
          log }) := by
  simp only [perform_eq, run_toSet_of_isSequence isSequence, Log.announceAll_eq_emit, reduceCtorEq,
    if_false, List.map_cons, List.flatMap_cons]

/-- The constructor and the factory agree on every sequence.  Both make a set exactly if all members
are texts, and then it is the set of their globs, in order and with repetitions.  Otherwise both
fail with the fault of the first member that is no text; its index is the number of the texts in
front of it.  They differ in what they do besides.  The factory always leaves the library's handle
as the global one and first of all emits one record of the members; the constructor leaves the log
alone and emits nothing if there is no text at the head.  The factory leaves no members to an
iterator. -/
theorem perform_anyOf_and_toSet (session : Session) (isSequence : value.isSequence = true) :
    let members := session.supply.membersOf value
    let direct := session.perform (anyOf value)
    let gathered := session.perform (toSet value)
    let log := (session.log.acquire libraryChannel).2
    let context := [("globs", Value.shownAll members)]
    gathered.1 = direct.1 ∧
      ((∃ set, direct.1 = .ok set) ↔ ∀ member ∈ members, member.text?.isSome = true) ∧
      (∀ set, direct.1 = .ok set ↔ ∃ globs, set = .pathSet (.anyOf session.supply.next globs) ∧
        members.map Value.text? = globs.map fun glob => some glob.source) ∧
      (∀ fault, direct.1 = .error fault ↔
        ∃ front member rest, members = front ++ member :: rest ∧
          (∀ other ∈ front, other.text?.isSome = true) ∧ member.text? = none ∧
            fault = .memberNotText front.length member.kind ∧ fault.category.code? = some 1 ∧
              fault.message = "Invalid glob pattern at index " ++ Nat.repr front.length ++
                ": Glob pattern must be string, got " ++ member.kind.label) ∧
      gathered.2.1 =
        (if log.isEnabled libraryChannel then
            (log.channels libraryChannel).sinks.map fun sink =>
              ⟨sink, libraryChannel, recordText "Building glob set" context, context⟩
          else []) ++ direct.2.1 ∧
      log.Holds libraryChannel ∧
      gathered.2.2 =
        { direct.2.2 with supply := direct.2.2.supply.leaveTo value [], log } ∧
      direct.2.2.log =
        (if ∀ first ∈ members.head?, first.text? = none then session.log else log) ∧
      ((∀ first ∈ members.head?, first.text? = none) → direct.2.1 = []) := by
  have iterable := members_ne_absent_of_isSequence isSequence
  simp only [session.perform_anyOf iterable, session.perform_toSet_of_isSequence isSequence]
  refine ⟨trivial, exists_globSet_eq_ok_iff, fun set => globSet_eq_ok_iff, fun fault => ?_, ?_,
    session.log.holds_acquire libraryChannel, ?_, trivial, fun headless => ?_⟩
  · rw [globSet_eq_error_iff]
    constructor
    · rintro ⟨front, member, rest, split, texts, notText, rfl⟩
      exact ⟨front, member, rest, split, texts, notText, rfl, rfl, rfl⟩
    · rintro ⟨front, member, rest, split, texts, notText, isFault, -, -⟩
      exact ⟨front, member, rest, split, texts, notText, isFault⟩
  · rw [Log.emit_emission]
    rfl
  · rw [← Supply.tagged_leaveTo, Supply.leaveTo_leaveTo]
  · rw [Notice.ofMembers_eq_nil_iff.mpr headless]
    rfl

/-- A text and nothing, with the library's handle as the global one and debugging records passing:
both ways fail at the second member, and the factory has the record of both members in front. -/
theorem perform_anyOf_and_toSet_of_text_and_nothing :
    let log := (Log.initial.openAt libraryChannel 10 (some [.named "sink"])).2.setCurrent
      (some ⟨0, libraryChannel⟩)
    let session : Session := { Session.initial with log }
    let value : Value := .list 3 [.datum 1 (.text "a"), .datum 2 .none]
    let context := [("globs", "['a', None]")]
    value.isSequence = true ∧
      (session.perform (toSet value)).1 = (session.perform (anyOf value)).1 ∧
      (session.perform (anyOf value)).1 = .error (.memberNotText 1 .none) ∧
      (session.perform (toSet value)).2.1 =
        ⟨.named "sink", libraryChannel, "Building glob set | globs=['a', None]", context⟩ ::
          (session.perform (anyOf value)).2.1 := by
  intro log session value context
  have isSequence : value.isSequence = true := rfl
  obtain ⟨agree, -, -, fault_iff, delivered, -⟩ := perform_anyOf_and_toSet session isSequence
  refine ⟨isSequence, agree, (fault_iff _).mpr ?_, delivered.trans rfl⟩
  exact ⟨[.datum 1 (.text "a")], .datum 2 .none, [], rfl, by decide, rfl, rfl, rfl, rfl⟩

end Session
end PathSets
