import PathSets.Proofs.Session.Transcripts

/-!
# Queries do not depend on the log

Performing a build threads the log through all its parts: a notice is emitted, and the global handle
perhaps replaced, when it is announced, and what is built afterwards meets the log that this leaves.
Nevertheless two sessions that differ in their logs and handles only take the same answers from
every query and differ in their logs and handles only afterwards, since on either log a query comes
to what its transcript comes to.
-/

namespace PathSets
namespace Session

/-- Whether two sessions have the same names and the same supply, and so differ in their handles
and logs at most. -/
structure Agree (first second : Session) : Prop where
  names : first.names = second.names
  supply : first.supply = second.supply

namespace Agree

variable {first second : Session}

theorem define (agree : first.Agree second) (name : String) (value : Value) :
    (first.define name value).Agree (second.define name value) where
  names := by simp only [Session.define, agree.names]
  supply := agree.supply

/-- Performing a build that has a transcript comes to the same, and leaves the same supply. -/
theorem perform {α : Type} (agree : first.Agree second) (build : Build .log α)
    {transcript : Build .scribe α} [Build.Transcribed build transcript] :
    (first.perform build).1 = (second.perform build).1 ∧
      (first.perform build).2.2.Agree (second.perform build).2.2 := by
  rw [perform_eq, perform_eq, agree.supply]
  exact ⟨rfl, agree.names, rfl⟩

theorem ask (agree : first.Agree second) (query : Query) :
    (first.ask query).1.answer = (second.ask query).1.answer ∧
      (first.ask query).2.Agree (second.ask query).2 := by
  obtain ⟨outcome_eq, after⟩ := agree.perform (query.find second.names)
  simp only [Session.ask, agree.names]
  refine ⟨by rw [outcome_eq], ?_⟩
  rw [outcome_eq]
  split
  · exact after.define _ _
  · exact after

theorem run (agree : first.Agree second) (queries : List Query) :
    (first.run (queries.map .query)).1.map Report.answer =
        (second.run (queries.map .query)).1.map Report.answer ∧
      (first.run (queries.map .query)).2.Agree (second.run (queries.map .query)).2 := by
  induction queries generalizing first second with
  | nil => exact ⟨rfl, agree⟩
  | cons query rest ih =>
      obtain ⟨answer_eq, between⟩ := agree.ask query
      obtain ⟨answers_eq, after⟩ := ih between
      exact ⟨List.cons_eq_cons.mpr ⟨answer_eq, answers_eq⟩, after⟩

end Agree

/-- From the same names and the same supply, whatever the handles and the logs, a run of queries
gives the same answers and leaves the same names and the same supply, and with it the same members
to every iterator.  This is so although the log takes part.  A notice is emitted, and the global
handle perhaps replaced, when it is announced, and of two builds the second is performed on the log
that the first one leaves.  On whatever log, an expression, and with it a query, comes to what it
comes to before the scribe; only what is delivered and the log that is left depend on the log, and
they are those of announcing in order what the scribe wrote down. -/
theorem answers_run_queries_eq (names : Names) (supply : Supply)
    (handles others : List (String × Handle)) (log other : Log) :
    (∀ queries : List Query,
      let first := (Session.mk names handles supply log).run (queries.map .query)
      let second := (Session.mk names others supply other).run (queries.map .query)
      first.1.map Report.answer = second.1.map Report.answer ∧
        first.2.names = second.2.names ∧ first.2.supply = second.2.supply) ∧
      (∀ notice : Notice,
        (Build.announce notice : Build .log Unit).perform supply log =
          ⟨.ok (), supply, (log.announce notice).2, (log.announce notice).1⟩) ∧
      (∀ (α β : Type) (first : Build .log α) (second : α → Build .log β),
        (first >>= second).perform supply log =
          match first.perform supply log with
          | ⟨.error fault, after, left, deliveries⟩ => ⟨.error fault, after, left, deliveries⟩
          | ⟨.ok value, between, left, deliveries⟩ =>
              let last := (second value).perform between left
              ⟨last.outcome, last.supply, last.state, deliveries ++ last.outputs⟩) ∧
      (∀ expression : Expression,
        let written := (expression.evaluate names).run supply
        (expression.evaluate names : Build .log Value).perform supply log =
          ⟨written.outcome, written.supply, (log.announceAll written.notices).2,
            (log.announceAll written.notices).1⟩) ∧
      ∀ query : Query,
        let written := (query.find names).run supply
        (query.find names : Build .log Finding).perform supply log =
          ⟨written.outcome, written.supply, (log.announceAll written.notices).2,
            (log.announceAll written.notices).1⟩ := by
  refine ⟨fun queries => ?_, fun notice => rfl, fun α β first second => ?_,
    fun expression => (Expression.transcribed_evaluate names expression).perform_eq supply log,
    fun query => (Query.transcribed_find names query).perform_eq supply log⟩
  · have agree : (Session.mk names handles supply log).Agree ⟨names, others, supply, other⟩ :=
      ⟨rfl, rfl⟩
    obtain ⟨answers_eq, after⟩ := agree.run queries
    exact ⟨answers_eq, after.names, after.supply⟩
  · rw [Build.perform_bind]
    rcases first.perform supply log with ⟨fault | value, between, left, deliveries⟩
    · rfl
    · rfl

end Session
end PathSets
