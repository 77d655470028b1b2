import PathSets.Proofs.Build.Tracing

/-!
# What making a set of globs comes to

A set of globs is made of members that all are texts, or it fails at the first one that is not.
This is so whether the members are taken one by one or all at once.  What remains of an iterator
differs: taken one by one, the members behind the failure are left; taken at once, none are.
-/

namespace PathSets

namespace Supply

/-- The supply after a tag was taken, which happens only where something was made. -/
def tagged {α : Type} (supply : Supply) : Except Fault α → Supply
  | .ok _ => { supply with next := supply.next + 1 }
  | .error _ => supply

@[simp] theorem leaveTo_next (supply : Supply) (value : Value) (items : List Value) :
    (supply.leaveTo value items).next = supply.next := by
  unfold leaveTo
  cases value.members <;> rfl

@[simp] theorem leaveTo_leaveTo (supply : Supply) (value : Value) (first second : List Value) :
    (supply.leaveTo value first).leaveTo value second = supply.leaveTo value second := by
  unfold leaveTo
  cases value.members with
  | oneShot iterator => exact supply.leave_leave iterator first second
  | absent | fixed | below => rfl

@[simp] theorem tagged_map {α β : Type} (supply : Supply) (outcome : Except Fault α)
    (make : α → β) : supply.tagged (outcome.map make) = supply.tagged outcome := by
  cases outcome <;> rfl

theorem tagged_leaveTo {α : Type} (supply : Supply) (value : Value) (items : List Value)
    (outcome : Except Fault α) :
    (supply.leaveTo value items).tagged outcome = (supply.tagged outcome).leaveTo value items := by
  cases outcome with
  | error fault => rfl
  | ok made =>
      unfold tagged leaveTo
      cases value.members <;> rfl

end Supply

namespace Build

variable {α β : Type} {supply : Supply}

/-! ## One build after another -/

theorem outcome_bind_eq_ok_iff {first : Build .scribe α} {second : α → Build .scribe β}
    {result : β} :
    ((first >>= second).run supply).outcome = .ok result ↔
      ∃ value, (first.run supply).outcome = .ok value ∧
        ((second value).run (first.run supply).supply).outcome = .ok result := by
  rcases ran : first.run supply with ⟨fault | value, after, notices⟩
  · simp [run_bind_of_error ran]
  · simp [run_bind_of_ok ran]

theorem outcome_bind_eq_error_iff {first : Build .scribe α} {second : α → Build .scribe β}
    {fault : Fault} :
    ((first >>= second).run supply).outcome = .error fault ↔
      (first.run supply).outcome = .error fault ∨
        ∃ value, (first.run supply).outcome = .ok value ∧
          ((second value).run (first.run supply).supply).outcome = .error fault := by
  rcases ran : first.run supply with ⟨fault | value, after, notices⟩
  · simp [run_bind_of_error ran]
  · simp [run_bind_of_ok ran]

theorem supply_bind_of_ok {first : Build .scribe α} {second : α → Build .scribe β} {value : α}
    (made : (first.run supply).outcome = .ok value) :
    ((first >>= second).run supply).supply =
      ((second value).run (first.run supply).supply).supply := by
  rcases ran : first.run supply with ⟨fault | given, after, notices⟩
  · simp [ran] at made
  · obtain rfl : given = value := by simpa [ran] using made
    simp [run_bind_of_ok ran]

theorem run_map (first : Build .scribe α) (make : α → β) (supply : Supply) :
    (do return make (← first)).run supply =
      ⟨(first.run supply).outcome.map make, (first.run supply).supply,
        (first.run supply).notices⟩ := by
  rcases ran : first.run supply with ⟨fault | value, after, notices⟩
  · rw [run_bind_of_error ran]
    rfl
  · rw [run_bind_of_ok ran, run_pure]
    simp only [List.append_nil]
    rfl

/-- What is made of the result of a build gets the tag that the build has left. -/
theorem run_tagged (first : Build .scribe α) (make : Tag → α → β) (supply : Supply) :
    (do
      let value ← first
      return make (← fresh) value).run supply =
      ⟨(first.run supply).outcome.map (make (first.run supply).supply.next),
        (first.run supply).supply.tagged (first.run supply).outcome,
        (first.run supply).notices⟩ := by
  rcases ran : first.run supply with ⟨fault | value, after, notices⟩
  · rw [run_bind_of_error ran]
    rfl
  · rw [run_bind_of_ok ran, run_bind_of_ok (run_fresh after), run_pure]
    simp only [List.append_nil]
    rfl

theorem map_eq_ok_iff {outcome : Except Fault α} {make : α → β} {result : β} :
    outcome.map make = .ok result ↔ ∃ value, outcome = .ok value ∧ make value = result := by
  cases outcome <;> simp [Except.map]

/-! ## The globs of members -/

/-- The set of the globs of some members, with a tag given to it, or the fault of the first member
that is no text. -/
def globSet (tag : Tag) (members : List Value) : Except Fault Value :=
  (askAll memberGlob 0 members).map fun globs => .pathSet (.anyOf tag globs)

/-- The members behind the first one that is no text. -/
def behindTexts (members : List Value) : List Value :=
  (members.dropWhile (·.text?.isSome)).tail

theorem memberGlob_of_text {member : Value} {source : String} (isText : member.text? = some source)
    (index : Nat) : memberGlob index member = .ok ⟨source⟩ := by
  simp only [memberGlob, isText]

theorem memberGlob_of_not_text {member : Value} (notText : member.text? = none) (index : Nat) :
    memberGlob index member = .error (.memberNotText index member.kind) := by
  simp only [memberGlob, notText]

/-- Members have globs exactly if all are texts, and then the globs are their sources in order. -/
theorem askAll_memberGlob_eq_ok_iff {index : Nat} {members : List Value} {globs : List Glob} :
    askAll memberGlob index members = .ok globs ↔
      members.map Value.text? = globs.map fun glob => some glob.source := by
  induction members generalizing index globs with
  | nil => cases globs <;> simp
  | cons member rest ih =>
      cases text : member.text? with
      | none =>
          rw [askAll_cons_of_error (memberGlob_of_not_text text index)]
          cases globs <;> simp [text]
      | some source =>
          rw [askAll_cons_of_ok (memberGlob_of_text text index), map_eq_ok_iff]
          simp only [ih, List.map_cons, text]
          constructor
          · rintro ⟨others, each, rfl⟩
            rw [List.map_cons, each]
          · intro each
            cases globs with
            | nil => cases each
            | cons glob others =>
                obtain ⟨first, behind⟩ := List.cons.inj each
                exact ⟨others, behind, by rw [Option.some.inj first]⟩

theorem globSet_eq_ok_iff {tag : Tag} {members : List Value} {set : Value} :
    globSet tag members = .ok set ↔
      ∃ globs, set = .pathSet (.anyOf tag globs) ∧
        members.map Value.text? = globs.map fun glob => some glob.source := by
  simp only [globSet, map_eq_ok_iff, askAll_memberGlob_eq_ok_iff, and_comm, eq_comm (a := set)]

theorem globSet_eq_error_iff {tag : Tag} {members : List Value} {fault : Fault} :
    globSet tag members = .error fault ↔
      ∃ front member rest, members = front ++ member :: rest ∧
        (∀ other ∈ front, other.text?.isSome = true) ∧ member.text? = none ∧
          fault = .memberNotText front.length member.kind := by
  have refused_iff (index : Nat) (member : Value) : memberGlob index member = .error fault ↔
      member.text? = none ∧ fault = .memberNotText index member.kind := by
    unfold memberGlob
    cases member.text? <;> simp [eq_comm]
  simp only [globSet, map_eq_error_iff, askAll_eq_error_iff examines_compileMember, refused_iff,
    Nat.zero_add]

theorem exists_globSet_eq_ok_iff {tag : Tag} {members : List Value} :
    (∃ set, globSet tag members = .ok set) ↔ ∀ member ∈ members, member.text?.isSome = true := by
  rw [globSet, exists_map_eq_ok_iff, exists_askAll_eq_ok_iff examines_compileMember]

/-! ## Making the set of a sequence -/

/-- Members taken one by one. -/
theorem run_anyOf {value : Value} (iterable : value.members ≠ .absent) (supply : Supply) :
    (anyOf value).run supply =
      ⟨globSet supply.next (supply.membersOf value),
        (supply.leaveTo value (behindTexts (supply.membersOf value))).tagged
          (globSet supply.next (supply.membersOf value)),
        Notice.ofMembers (supply.membersOf value)⟩ := by
  rw [anyOf, run_tagged, run_visit examines_compileMember iterable, Supply.leaveTo_next, globSet,
    Supply.tagged_map]
  rfl

theorem run_gather (members : List Value) (supply : Supply) :
    (gather members).run supply =
      ⟨globSet supply.next members, supply.tagged (globSet supply.next members),
        .gathering members :: Notice.ofMembers members⟩ := by
  rw [gather, run_bind_of_ok (run_announce (.gathering members) supply), run_tagged,
    run_visitList_fixed examines_compileMember, globSet, Supply.tagged_map]
  rfl

theorem members_ne_absent_of_isSequence {value : Value} (isSequence : value.isSequence = true) :
    value.members ≠ .absent := by
  cases value with
  | datum tag held => cases held <;> simp_all [Value.isSequence, Value.members]
  | _ => simp_all [Value.isSequence, Value.members]

theorem toSet_of_isSequence {audience : Audience} {value : Value}
    (isSequence : value.isSequence = true) :
    toSet value = (membersOf value >>= gather : Build audience Value) := by
  cases value with
  | datum tag held => cases held <;> first | rfl | cases isSequence
  | list | tuple | set | iterator | collection => rfl
  | dict | object | pathSet | looseUnion | looseDifference => cases isSequence

/-- Members taken at once. -/
theorem run_toSet_of_isSequence {value : Value} (isSequence : value.isSequence = true)
    (supply : Supply) :
    (toSet value).run supply =
      ⟨globSet supply.next (supply.membersOf value),
        (supply.leaveTo value []).tagged (globSet supply.next (supply.membersOf value)),
        .gathering (supply.membersOf value) :: Notice.ofMembers (supply.membersOf value)⟩ := by
  rw [toSet_of_isSequence isSequence,
    run_bind_of_ok (run_membersOf (members_ne_absent_of_isSequence isSequence) supply), run_gather,
    Supply.leaveTo_next]
  rfl

end Build
end PathSets
