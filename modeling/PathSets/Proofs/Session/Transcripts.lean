import PathSets.Proofs.Log.Announcing
import PathSets.Session.Basic

/-!
# Transcripts

A build that is performed before the log may meet another log after every notice.  Its transcript is
the same build before the scribe, which has nothing to give it.  The two come to the same, and the
log hears what the scribe writes down.  This holds of every primitive build, and one build after
another keeps it, so it holds of all builds that sessions perform.
-/

namespace PathSets
namespace Build

variable {α β : Type}

/-- A build before the log comes to what its transcript comes to, on whatever log, and it leaves the
log, and delivers, what announcing the notices of the transcript in order does. -/
class Transcribed (build : Build .log α) (transcript : outParam (Build .scribe α)) : Prop where
  perform_eq (supply : Supply) (log : Log) :
    build.perform supply log =
      let written := transcript.run supply
      let heard := log.announceAll written.notices
      ⟨written.outcome, written.supply, heard.2, heard.1⟩

/-! ## Primitive builds -/

theorem transcribed_pure (value : α) :
    Transcribed (pure value : Build .log α) (pure value : Build .scribe α) := ⟨fun _ _ => rfl⟩

theorem transcribed_fail (fault : Fault) :
    Transcribed (fail fault : Build .log α) (fail fault) := ⟨fun _ _ => rfl⟩

theorem transcribed_fresh : Transcribed fresh fresh := ⟨fun _ _ => rfl⟩

theorem transcribed_remaining (iterator : Tag) :
    Transcribed (remaining iterator) (remaining iterator) := ⟨fun _ _ => rfl⟩

theorem transcribed_leave (iterator : Tag) (items : List Value) :
    Transcribed (leave iterator items) (leave iterator items) := ⟨fun _ _ => rfl⟩

theorem transcribed_ofExcept (outcome : Except Fault α) :
    Transcribed (ofExcept outcome) (ofExcept outcome) := by
  cases outcome with
  | ok value => exact transcribed_pure value
  | error fault => exact transcribed_fail fault

theorem transcribed_announce (notice : Notice) :
    Transcribed (announce notice) (announce notice) where
  perform_eq supply log := by
    simp only [run_announce, Log.announceAll, List.append_nil]
    rfl

/-- The second build is performed on the log that the first one leaves, which is the log that the
notices of the first transcript leave. -/
theorem Transcribed.bind {first : Build .log α} {written : Build .scribe α}
    {second : α → Build .log β} {next : α → Build .scribe β} (starts : Transcribed first written)
    (continues : ∀ value, Transcribed (second value) (next value)) :
    Transcribed (first >>= second) (written >>= next) where
  perform_eq supply log := by
    rw [Build.perform_bind, starts.perform_eq]
    rcases ran : written.run supply with ⟨fault | value, after, notices⟩
    · rw [run_bind_of_error ran]
    · rw [run_bind_of_ok ran]
      simp only [(continues value).perform_eq, Log.announceAll_append]

theorem Transcribed.map {first : Build .log α} {written : Build .scribe α}
    (starts : Transcribed first written) (make : α → β) :
    Transcribed (do return make (← first)) (do return make (← written)) :=
  starts.bind fun value => transcribed_pure (make value)

/-! ## Members -/

theorem transcribed_visitList {release : List Value → Build .log Unit}
    {written : List Value → Build .scribe Unit} {act : Nat → Value → Build .log β}
    {ask : Nat → Value → Build .scribe β}
    (releases : ∀ items, Transcribed (release items) (written items))
    (acts : ∀ index item, Transcribed (act index item) (ask index item)) (index : Nat)
    (items : List Value) :
    Transcribed (visitList release act index items) (visitList written ask index items) := by
  induction items generalizing index with
  | nil => exact transcribed_pure _
  | cons item rest ih =>
      exact (releases rest).bind fun _ => (acts index item).bind fun first =>
        (ih (index + 1)).map (first :: ·)

theorem transcribed_visitFixed {act : Nat → Value → Build .log β}
    {ask : Nat → Value → Build .scribe β}
    (acts : ∀ index item, Transcribed (act index item) (ask index item)) (index : Nat)
    (items : List Value) :
    Transcribed (visitList (fun _ => pure ()) act index items)
      (visitList (fun _ => pure ()) ask index items) :=
  transcribed_visitList (fun _ => transcribed_pure ()) acts index items

theorem transcribed_visit {act : Nat → Value → Build .log β} {ask : Nat → Value → Build .scribe β}
    (acts : ∀ index item, Transcribed (act index item) (ask index item)) (value : Value) :
    Transcribed (visit value act) (visit value ask) := by
  unfold visit
  cases value.members with
  | absent => exact transcribed_fail _
  | fixed items => exact transcribed_visitFixed acts 0 items
  | below tag bound =>
      simp only [visitFrom_eq_visitList]
      exact transcribed_visitFixed acts 0 _
  | oneShot iterator =>
      exact (transcribed_remaining iterator).bind fun items =>
        transcribed_visitList (transcribed_leave iterator) acts 0 items

theorem transcribed_membersOf (value : Value) :
    Transcribed (membersOf value) (membersOf value) := by
  unfold membersOf
  cases value.members with
  | absent => exact transcribed_fail _
  | fixed items => exact transcribed_pure items
  | below tag bound => exact transcribed_pure _
  | oneShot iterator =>
      exact (transcribed_remaining iterator).bind fun items =>
        (transcribed_leave iterator []).map fun _ => items

theorem transcribed_siftBy (test : Subject → Except Fault Bool) (paths : Value) :
    Transcribed (siftBy test paths) (siftBy test paths) := by
  have acts (index : Nat) (item : Value) :
      Transcribed (testMember test index item) (testMember test index item) :=
    (transcribed_ofExcept _).map fun holds => (item, holds)
  simp only [siftBy_eq_visit]
  exact (transcribed_visit acts paths).map held

theorem transcribed_siftOf (set paths : Value) :
    Transcribed (siftOf set paths) (siftOf set paths) := by
  cases set with
  | pathSet set =>
      cases set with
      | empty tag => exact transcribed_pure []
      | blank | single | anyOf | union | difference => exact transcribed_siftBy _ paths
  | _ => exact transcribed_siftBy _ paths

theorem transcribed_globOf (value : Value) : Transcribed (globOf value) (globOf value) := by
  unfold globOf
  split
  · exact transcribed_pure _
  · exact transcribed_fail _

/-! ## Making sets -/

theorem transcribed_tagged (make : Tag → β) :
    Transcribed (do return make (← fresh)) (do return make (← fresh)) :=
  transcribed_fresh.map make

theorem transcribed_compile (source : String) :
    Transcribed (compile source) (compile source) :=
  (transcribed_announce _).map fun _ => Glob.mk source

theorem transcribed_compileMember (index : Nat) (member : Value) :
    Transcribed (compileMember index member) (compileMember index member) := by
  unfold compileMember
  cases member.text? with
  | some source => exact transcribed_compile source
  | none => exact transcribed_fail _

theorem transcribed_single (source : Value) : Transcribed (single source) (single source) :=
  (transcribed_ofExcept _).bind fun source => (transcribed_compile source).bind fun glob =>
    transcribed_tagged fun tag => Value.pathSet (.single tag glob)

instance transcribed_anyOf (sources : Value) : Transcribed (anyOf sources) (anyOf sources) :=
  (transcribed_visit transcribed_compileMember sources).bind fun globs =>
    transcribed_tagged fun tag => Value.pathSet (.anyOf tag globs)

theorem transcribed_union (sets : Value) : Transcribed (union sets) (union sets) :=
  (transcribed_membersOf sets).bind fun members => transcribed_tagged (Value.unionOf · members)

theorem transcribed_difference (included excluded : Value) :
    Transcribed (difference included excluded) (difference included excluded) :=
  transcribed_tagged (Value.differenceOf · included excluded)

theorem transcribed_gather (members : List Value) :
    Transcribed (gather members) (gather members) :=
  (transcribed_announce _).bind fun _ =>
    (transcribed_visitFixed transcribed_compileMember 0 members).bind fun globs =>
      transcribed_tagged fun tag => Value.pathSet (.anyOf tag globs)

instance transcribed_toSet (value : Value) : Transcribed (toSet value) (toSet value) := by
  have gathered : Transcribed (membersOf value >>= gather) (membersOf value >>= gather) :=
    (transcribed_membersOf value).bind transcribed_gather
  cases value with
  | datum tag held =>
      cases held with
      | none => exact transcribed_pure _
      | text content => exact transcribed_gather _
      | byteArray | range => exact gathered
      | bool | int | float | level | bytes => exact transcribed_fail _
  | list | tuple | set | iterator | collection => exact gathered
  | dict | object => exact transcribed_fail _
  | pathSet | looseUnion | looseDifference => exact transcribed_pure _

theorem transcribed_toSets (values : List Value) :
    Transcribed (toSets values) (toSets values) := by
  induction values with
  | nil => exact transcribed_pure []
  | cons value rest ih =>
      exact (transcribed_toSet value).bind fun first => ih.map (first :: ·)

theorem transcribed_unionOf (values : List Value) :
    Transcribed (unionOf values) (unionOf values) :=
  (transcribed_toSets values).bind fun members => transcribed_tagged (Value.unionOf · members)

theorem transcribed_differenceOf (included excluded : Value) :
    Transcribed (differenceOf included excluded) (differenceOf included excluded) :=
  (transcribed_toSet included).bind fun first => (transcribed_toSet excluded).bind fun second =>
    transcribed_tagged (Value.differenceOf · first second)

theorem transcribed_requireKey (value : Value) :
    Transcribed (requireKey value) (requireKey value) :=
  (transcribed_ofExcept _).map fun _ => ()

theorem transcribed_requireKeys (values : List Value) :
    Transcribed (requireKeys values) (requireKeys values) :=
  (transcribed_ofExcept _).map fun _ => ()

end Build

/-! ## Expressions -/

open Build

namespace Expression

mutual

theorem transcribed_evaluate (names : Names) : (expression : Expression) →
    Transcribed (expression.evaluate names) (expression.evaluate names)
  | .constant datum => transcribed_tagged (Value.datum · datum)
  | .sharedEmpty => transcribed_pure _
  | .named name => by
      simp only [evaluate]
      cases names name with
      | some value => exact transcribed_pure value
      | none => exact transcribed_fail _
  | .list items => (transcribed_evaluateAll names items).bind fun members =>
      transcribed_tagged (Value.list · members)
  | .tuple items => (transcribed_evaluateAll names items).bind fun members =>
      transcribed_tagged (Value.tuple · members)
  | .set arrangement items => (transcribed_evaluateAll names items).bind fun members =>
      (transcribed_requireKeys members).bind fun _ =>
        transcribed_tagged (Value.set · (arrangement.arrange (distinctMembers members)))
  | .dict entries => (transcribed_evaluateEntries names entries).bind fun entries =>
      transcribed_tagged (Value.dict · (distinctEntries entries))
  | .iterator items => (transcribed_evaluateAll names items).bind fun members =>
      transcribed_fresh.bind fun tag =>
        (transcribed_leave tag members).map fun _ => Value.iterator tag
  | .object species shown => transcribed_tagged (Value.object · species shown)
  | .collection species shown items => (transcribed_evaluateAll names items).bind fun members =>
      transcribed_tagged (Value.collection · species shown members)
  | .newEmpty => transcribed_tagged fun tag => Value.pathSet (.empty tag)
  | .newBlank => transcribed_tagged fun tag => Value.pathSet (.blank tag)
  | .single source => (transcribed_evaluate names source).bind transcribed_single
  | .anyOf sources => (transcribed_evaluate names sources).bind transcribed_anyOf
  | .union sets => (transcribed_evaluate names sets).bind transcribed_union
  | .difference included excluded => (transcribed_evaluate names included).bind fun first =>
      (transcribed_evaluate names excluded).bind (transcribed_difference first)
  | .toSet value => (transcribed_evaluate names value).bind transcribed_toSet
  | .unionOf values => (transcribed_evaluateAll names values).bind transcribed_unionOf
  | .differenceOf included excluded => (transcribed_evaluate names included).bind fun first =>
      (transcribed_evaluate names excluded).bind (transcribed_differenceOf first)

theorem transcribed_evaluateAll (names : Names) : (expressions : List Expression) →
    Transcribed (evaluateAll names expressions) (evaluateAll names expressions)
  | [] => transcribed_pure []
  | expression :: rest => (transcribed_evaluate names expression).bind fun first =>
      (transcribed_evaluateAll names rest).map (first :: ·)

theorem transcribed_evaluateEntries (names : Names) :
    (entries : List (Expression × Expression)) →
    Transcribed (evaluateEntries names entries) (evaluateEntries names entries)
  | [] => transcribed_pure []
  | (key, value) :: rest => (transcribed_evaluate names key).bind fun first =>
      (transcribed_evaluate names value).bind fun second =>
        (transcribed_requireKey first).bind fun _ =>
          (transcribed_evaluateEntries names rest).map ((first, second) :: ·)

end

attribute [instance] transcribed_evaluate

theorem transcribed_evaluateSet (names : Names) (refuse : Kind → Fault) (expression : Expression) :
    Transcribed (expression.evaluateSet names refuse) (expression.evaluateSet names refuse) := by
  refine (transcribed_evaluate names expression).bind fun value => ?_
  split
  · exact transcribed_pure value
  · exact transcribed_fail _

end Expression

/-! ## Steps -/

open Expression

instance Query.transcribed_find (names : Names) (query : Query) :
    Transcribed (query.find names) (query.find names) := by
  have tested (set path : Value) :
      Transcribed (do return Finding.truth (← ofExcept (set.test path.subject)))
        (do return Finding.truth (← ofExcept (set.test path.subject))) :=
    (transcribed_ofExcept _).map Finding.truth
  cases query with
  | define name value => exact (transcribed_evaluate names value).map Finding.value
  | test set path =>
      exact (transcribed_evaluateSet names _ set).bind fun set =>
        (transcribed_evaluate names path).bind (tested set)
  | contains set path =>
      exact (transcribed_evaluate names path).bind fun path =>
        (transcribed_evaluateSet names _ set).bind (tested · path)
  | sift set paths =>
      exact (transcribed_evaluateSet names _ set).bind fun set =>
        (transcribed_evaluate names paths).bind fun paths =>
          (transcribed_siftOf set paths).map Finding.selected
  | same left right =>
      exact (transcribed_evaluate names left).bind fun left =>
        (transcribed_evaluate names right).map fun right => Finding.truth (left.same right)
  | sameChild set child other =>
      exact (transcribed_evaluate names set).bind fun set =>
        (transcribed_ofExcept (set.child child)).bind fun found =>
          (transcribed_evaluate names other).map fun other => Finding.truth (found.same other)
  | compare left right =>
      refine (transcribed_evaluate names left).bind fun left =>
        (transcribed_evaluate names right).bind fun right => ?_
      split
      · exact (transcribed_ofExcept _).bind fun first => (transcribed_ofExcept _).map fun second =>
          Finding.comparison true (some (first == second))
      · exact transcribed_pure _
  | distinct items =>
      exact (transcribed_evaluate names items).bind fun items =>
        (transcribed_visit (fun _ => transcribed_globOf) items).map fun globs =>
          Finding.globs (Glob.distinct globs)

namespace Session

instance transcribed_evaluateOr (session : Session) (default : Datum)
    (expression : Option Expression) :
    Transcribed (session.evaluateOr default expression) (session.evaluateOr default expression) :=
  transcribed_evaluate session.names _

instance transcribed_handleArguments (session : Session) (name level : Option Expression) :
    Transcribed (session.handleArguments name level) (session.handleArguments name level) :=
  (session.transcribed_evaluateOr _ name).bind fun name =>
    (session.transcribed_evaluateOr _ level).map fun level => (name, level)

instance transcribed_evaluateContext (names : Names) (context : List (String × Expression)) :
    Transcribed (evaluateContext names context) (evaluateContext names context) := by
  induction context with
  | nil => exact transcribed_pure []
  | cons entry rest ih =>
      exact (transcribed_evaluate names entry.2).bind fun value =>
        ih.map ((entry.1, value.plain) :: ·)

/-- What a session performs comes to what its transcript comes to, whatever the log. -/
theorem perform_eq {α : Type} (session : Session) (build : Build .log α)
    {transcript : Build .scribe α} [Transcribed build transcript] :
    session.perform build =
      ((transcript.run session.supply).outcome,
        (session.log.announceAll (transcript.run session.supply).notices).1,
        { session with
          supply := (transcript.run session.supply).supply
          log := (session.log.announceAll (transcript.run session.supply).notices).2 }) := by
  rw [perform, Transcribed.perform_eq]

end Session
end PathSets
