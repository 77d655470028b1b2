import PathSets.Proofs.Build.Visiting
import PathSets.Proofs.PathSet.Testing

/-!
# Sifting members

Sifting puts each member of a value to a test in turn.  It comes to the members that the test holds
of, or to the fault of the first member that the test makes a fault of; a one-shot iterator is left
with the members that were not looked at.  What a set of paths says of a member is known beforehand,
and so is what sifting with it comes to.
-/

namespace PathSets

namespace Build

/-! ## Sifting by a test -/

/-- What sifting some members by a test comes to. -/
def sifted (test : Subject → Except Fault Bool) (members : List Value) :
    Except Fault (List Value) :=
  members.filterM fun member => test member.subject

/-- Whether a test makes no fault of a member. -/
def answers (test : Subject → Except Fault Bool) (member : Value) : Bool :=
  (test member.subject).isOk

/-- The members behind the first one that a test makes a fault of. -/
def unseen (test : Subject → Except Fault Bool) (members : List Value) : List Value :=
  (members.dropWhile (answers test)).tail

/-- What testing one member comes to. -/
def verdict (test : Subject → Except Fault Bool) (_ : Nat) (member : Value) :
    Except Fault (Value × Bool) :=
  (test member.subject).map fun holds => (member, holds)

variable {test : Subject → Except Fault Bool}

theorem verdict_of_ok {member : Value} {holds : Bool} (tested : test member.subject = .ok holds)
    (index : Nat) : verdict test index member = .ok (member, holds) := by
  rw [verdict, tested]
  rfl

theorem verdict_of_error {member : Value} {fault : Fault}
    (tested : test member.subject = .error fault) (index : Nat) :
    verdict test index member = .error fault := by
  rw [verdict, tested]
  rfl

theorem answers_iff {member : Value} :
    answers test member = true ↔ ∃ holds, test member.subject = .ok holds := by
  unfold answers
  cases test member.subject <;> simp [Except.isOk, Except.toBool]

theorem examines_testMember (test : Subject → Except Fault Bool) :
    Examines (testMember test) (verdict test) (answers test) fun _ => [] where
  of_passes {member} passed index supply := by
    obtain ⟨holds, tested⟩ := answers_iff.mp passed
    refine ⟨(member, holds), verdict_of_ok tested index, ?_⟩
    rw [testMember, tested]
    rfl
  of_refuses {member} refused index supply := by
    cases tested : test member.subject with
    | ok holds =>
        rw [answers_iff.mpr ⟨holds, tested⟩] at refused
        cases refused
    | error fault =>
        refine ⟨fault, verdict_of_error tested index, ?_⟩
        rw [testMember, tested]
        rfl

theorem filterAuxM_eq_map_askAll (index : Nat) (members found : List Value) :
    members.filterAuxM (fun member => test member.subject) found =
      (askAll (verdict test) index members).map fun verdicts =>
        (held verdicts).reverse ++ found := by
  induction members generalizing index found with
  | nil => rfl
  | cons member rest ih =>
      rw [List.filterAuxM]
      cases tested : test member.subject with
      | error fault =>
          rw [askAll_cons_of_error (verdict_of_error tested index)]
          rfl
      | ok holds =>
          simp only [bind, Except.bind, ih (index + 1),
            askAll_cons_of_ok (verdict_of_ok tested index)]
          cases askAll (verdict test) (index + 1) rest with
          | error fault => rfl
          | ok verdicts => cases holds <;> simp [Except.map, held]

/-- What is kept of the verdicts of all members is what sifting comes to. -/
theorem map_held_askAll (test : Subject → Except Fault Bool) (index : Nat) (members : List Value) :
    (askAll (verdict test) index members).map held = sifted test members := by
  rw [sifted, List.filterM, filterAuxM_eq_map_askAll index]
  cases askAll (verdict test) index members with
  | error fault => rfl
  | ok verdicts => simp [Except.map, bind, Except.bind, pure, Except.pure]

/-- What is kept of what a predicate says of members is what it holds of. -/
theorem held_map_pair (holds : Value → Bool) (members : List Value) :
    held (members.map fun member => (member, holds member)) = members.filter holds := by
  simp [held, List.filter_map, Function.comp_def]

/-- Sifting comes to members exactly if the test makes a fault of none. -/
theorem exists_sifted_eq_ok_iff (test : Subject → Except Fault Bool) {members : List Value} :
    (∃ found, sifted test members = .ok found) ↔
      ∀ member ∈ members, ∃ holds, test member.subject = .ok holds := by
  rw [← map_held_askAll test 0, exists_map_eq_ok_iff,
    exists_askAll_eq_ok_iff (examines_testMember test)]
  simp only [answers_iff]

theorem run_siftBy {paths : Value} (iterable : paths.members ≠ .absent) (supply : Supply) :
    (siftBy test paths).run supply =
      ⟨sifted test (supply.membersOf paths),
        supply.leaveTo paths (unseen test (supply.membersOf paths)), []⟩ := by
  have visited := run_visit (examines_testMember test) iterable supply
  rw [siftBy_eq_visit, ← map_held_askAll test 0]
  cases asked : askAll (verdict test) 0 (supply.membersOf paths) with
  | error fault =>
      rw [asked] at visited
      rw [run_bind_of_error visited]
      simp [Except.map, unseen]
  | ok verdicts =>
      rw [asked] at visited
      rw [run_bind_of_ok visited]
      simp [Except.map, unseen]

end Build

/-! ## Sets of paths as tests -/

namespace PathSet

variable {ι : Type}

theorem holds_of_not_reaches {set : PathSet ι} (unreached : set.reaches = false) (value : Value) :
    set.holds value = false := by
  cases text : value.text? with
  | none => simp [holds, text]
  | some path => simpa [holds, text] using not_mem_of_not_reaches unreached

/-- What sifting some members with a set of paths comes to. -/
def selected (set : PathSet ι) (members : List Value) : Except Fault (List Value) :=
  match members.findSome? set.fault? with
  | some fault => .error fault
  | none => .ok (members.filter set.holds)

end PathSet

namespace Build

theorem sift_eq_siftBy {audience : Audience} {set : PathSet Tag} (nonempty : set.kind ≠ .emptySet)
    (paths : Value) : (sift set paths : Build audience _) = siftBy set.test paths := by
  cases set with
  | empty tag => exact absurd rfl nonempty
  | blank | single | anyOf | union | difference => rfl

theorem siftOf_eq_siftBy {audience : Audience} {set : Value} (nonempty : set.kind ≠ .emptySet)
    (paths : Value) : (siftOf set paths : Build audience _) = siftBy set.test paths := by
  cases set with
  | pathSet set => exact sift_eq_siftBy nonempty paths
  | _ => rfl

theorem siftOf_of_empty {audience : Audience} {set : Value} (empty : set.kind = .emptySet)
    (paths : Value) : (siftOf set paths : Build audience _) = pure [] := by
  cases set with
  | pathSet set =>
      cases set with
      | empty tag => rfl
      | blank | single | anyOf | union | difference => cases empty
  | datum tag held => cases held <;> cases empty
  | _ => cases empty

end Build
end PathSets
