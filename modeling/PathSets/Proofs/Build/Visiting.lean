import PathSets.Build.Trace

/-!
# What a visit comes to

Most acts only look at a member: they pass it or refuse it, and leave the supply alone.  A visit
with such an act comes to what the act comes to on all members, or to the fault of the first member
that is refused.  It announces what the members in front of that one announce, and an iterator is
left with the members behind it.
-/

namespace PathSets
namespace Supply

@[simp] theorem leave_remaining (supply : Supply) (iterator : Tag) :
    supply.leave iterator (supply.remaining iterator) = supply := by
  have same : (supply.leave iterator (supply.remaining iterator)).remaining = supply.remaining := by
    funext tag
    by_cases own : tag = iterator
    · rw [own, leave_remaining_self]
    · rw [leave_remaining_of_ne supply _ own]
  exact congrArg (Supply.mk supply.next) same

@[simp] theorem leave_leave (supply : Supply) (iterator : Tag) (first second : List Value) :
    (supply.leave iterator first).leave iterator second = supply.leave iterator second := by
  have same : ((supply.leave iterator first).leave iterator second).remaining =
      (supply.leave iterator second).remaining := by
    funext tag
    by_cases own : tag = iterator
    · rw [own, leave_remaining_self, leave_remaining_self]
    · rw [leave_remaining_of_ne _ _ own, leave_remaining_of_ne _ _ own,
        leave_remaining_of_ne _ _ own]
  exact congrArg (Supply.mk supply.next) same

/-- The supply in which a value, if it is an iterator, has these members left. -/
def leaveTo (supply : Supply) (value : Value) (items : List Value) : Supply :=
  match value.members with
  | .oneShot iterator => supply.leave iterator items
  | _ => supply

end Supply

namespace Build

variable {β : Type}

/-- An act that only looks at a member.  It passes the member, announces something and comes to
`ask`, or it refuses the member with the fault that `ask` has. -/
structure Examines (act : Nat → Value → Build .scribe β) (ask : Nat → Value → Except Fault β)
    (passes : Value → Bool) (announced : Value → List Notice) : Prop where
  of_passes {member : Value} (passed : passes member = true) (index : Nat) (supply : Supply) :
    ∃ result, ask index member = .ok result ∧
      (act index member).run supply = ⟨.ok result, supply, announced member⟩
  of_refuses {member : Value} (refused : passes member = false) (index : Nat) (supply : Supply) :
    ∃ fault, ask index member = .error fault ∧
      (act index member).run supply = ⟨.error fault, supply, []⟩

/-- What asking each of some members comes to, counted from `index`. -/
def askAll (ask : Nat → Value → Except Fault β) (index : Nat) (members : List Value) :
    Except Fault (List β) :=
  (members.zipIdx index).mapM fun entry => ask entry.2 entry.1

@[simp] theorem askAll_nil (ask : Nat → Value → Except Fault β) (index : Nat) :
    askAll ask index [] = .ok [] := rfl

theorem askAll_cons_of_error {ask : Nat → Value → Except Fault β} {index : Nat} {member : Value}
    {fault : Fault} (asked : ask index member = .error fault) (rest : List Value) :
    askAll ask index (member :: rest) = .error fault := by
  rw [askAll, List.zipIdx_cons, List.mapM_cons, asked]
  rfl

theorem askAll_cons_of_ok {ask : Nat → Value → Except Fault β} {index : Nat} {member : Value}
    {first : β} (asked : ask index member = .ok first) (rest : List Value) :
    askAll ask index (member :: rest) = (askAll ask (index + 1) rest).map (first :: ·) := by
  rw [askAll, List.zipIdx_cons, List.mapM_cons, asked, askAll]
  cases (rest.zipIdx (index + 1)).mapM fun entry => ask entry.2 entry.1 <;> rfl

theorem map_eq_error_iff {α : Type} {outcome : Except Fault α} {make : α → β} {fault : Fault} :
    outcome.map make = .error fault ↔ outcome = .error fault := by
  cases outcome <;> simp [Except.map]

theorem exists_map_eq_ok_iff {α : Type} {outcome : Except Fault α} {make : α → β} :
    (∃ result, outcome.map make = .ok result) ↔ ∃ value, outcome = .ok value := by
  cases outcome <;> simp [Except.map]

variable {act : Nat → Value → Build .scribe β} {ask : Nat → Value → Except Fault β}
  {passes : Value → Bool} {announced : Value → List Notice}

/-- The first member that is refused decides, and its index is the number of members in front. -/
theorem askAll_eq_error_iff (examines : Examines act ask passes announced) {index : Nat}
    {members : List Value} {fault : Fault} :
    askAll ask index members = .error fault ↔
      ∃ front member rest, members = front ++ member :: rest ∧
        (∀ other ∈ front, passes other = true) ∧
          ask (index + front.length) member = .error fault := by
  induction members generalizing index with
  | nil => simp
  | cons member rest ih =>
      cases passed : passes member with
      | false =>
          obtain ⟨own, asked, -⟩ := examines.of_refuses passed index .initial
          rw [askAll_cons_of_error asked]
          constructor
          · rintro ⟨⟩
            exact ⟨[], member, rest, rfl, nofun, asked⟩
          · rintro ⟨_ | ⟨first, front⟩, other, behind, equal, passes_front, failed⟩
            · obtain ⟨rfl, rfl⟩ := List.cons.inj equal
              rw [Except.error.inj (asked.symm.trans failed)]
            · obtain ⟨rfl, -⟩ := List.cons.inj equal
              simp [passed] at passes_front
      | true =>
          obtain ⟨result, asked, -⟩ := examines.of_passes passed index .initial
          have shift (front : List Value) :
              index + 1 + front.length = index + (front.length + 1) := by omega
          rw [askAll_cons_of_ok asked, map_eq_error_iff, ih]
          constructor
          · rintro ⟨front, other, behind, rfl, passes_front, failed⟩
            rw [shift] at failed
            exact ⟨member :: front, other, behind, rfl,
              List.forall_mem_cons.mpr ⟨passed, passes_front⟩, failed⟩
          · rintro ⟨_ | ⟨first, front⟩, other, behind, equal, passes_front, failed⟩
            · obtain ⟨rfl, rfl⟩ := List.cons.inj equal
              exact absurd (asked.symm.trans failed) nofun
            · obtain ⟨rfl, rfl⟩ := List.cons.inj equal
              rw [List.length_cons, ← shift] at failed
              exact ⟨front, other, behind, rfl, (List.forall_mem_cons.mp passes_front).2, failed⟩

/-- All members are asked with success exactly if none is refused. -/
theorem exists_askAll_eq_ok_iff (examines : Examines act ask passes announced) {index : Nat}
    {members : List Value} :
    (∃ results, askAll ask index members = .ok results) ↔
      ∀ member ∈ members, passes member = true := by
  induction members generalizing index with
  | nil => simp
  | cons member rest ih =>
      rw [List.forall_mem_cons]
      cases passed : passes member with
      | false =>
          obtain ⟨fault, asked, -⟩ := examines.of_refuses passed index .initial
          simp [askAll_cons_of_error asked]
      | true =>
          obtain ⟨result, asked, -⟩ := examines.of_passes passed index .initial
          rw [askAll_cons_of_ok asked, exists_map_eq_ok_iff, ih]
          simp

/-- What is released last is what was not looked at; it overwrites what was released before. -/
theorem run_visitList (examines : Examines act ask passes announced)
    {release : List Value → Build .scribe Unit} {after : List Value → Supply → Supply}
    (releases : ∀ items supply, (release items).run supply = ⟨.ok (), after items supply, []⟩)
    (overwrites : ∀ first second supply, after second (after first supply) = after second supply)
    (index : Nat) {members : List Value} {supply : Supply}
    (present : after members supply = supply) :
    (visitList release act index members).run supply =
      ⟨askAll ask index members, after (members.dropWhile passes).tail supply,
        (members.takeWhile passes).flatMap announced⟩ := by
  induction members generalizing index supply with
  | nil =>
      rw [visitList, run_pure]
      change _ = Built.mk (.ok []) (after [] supply) []
      rw [present]
  | cons member rest ih =>
      rw [visitList, run_bind_of_ok (releases rest supply)]
      cases passed : passes member with
      | false =>
          obtain ⟨fault, asked, ran⟩ := examines.of_refuses passed index (after rest supply)
          rw [run_bind_of_error ran, askAll_cons_of_error asked]
          simp [passed]
      | true =>
          obtain ⟨result, asked, ran⟩ := examines.of_passes passed index (after rest supply)
          have behind := ih (index + 1) (overwrites rest rest supply)
          rw [overwrites] at behind
          rw [run_bind_of_ok ran, askAll_cons_of_ok asked]
          cases others : askAll ask (index + 1) rest with
          | error fault =>
              rw [others] at behind
              rw [run_bind_of_error behind]
              simp [passed, Except.map]
          | ok results =>
              rw [others] at behind
              rw [run_bind_of_ok behind, run_pure]
              simp [passed, Except.map]

/-- Without an iterator nothing is released. -/
theorem run_visitList_fixed (examines : Examines act ask passes announced) (index : Nat)
    (members : List Value) (supply : Supply) :
    (visitList (fun _ => pure ()) act index members).run supply =
      ⟨askAll ask index members, supply, (members.takeWhile passes).flatMap announced⟩ :=
  run_visitList examines (fun _ => run_pure ()) (fun _ _ _ => rfl) index rfl

theorem run_visit (examines : Examines act ask passes announced) {value : Value}
    (iterable : value.members ≠ .absent) (supply : Supply) :
    (visit value act).run supply =
      ⟨askAll ask 0 (supply.membersOf value),
        supply.leaveTo value ((supply.membersOf value).dropWhile passes).tail,
        ((supply.membersOf value).takeWhile passes).flatMap announced⟩ := by
  unfold visit Supply.membersOf Supply.leaveTo
  cases source : value.members with
  | absent => exact absurd source iterable
  | fixed items => exact run_visitList_fixed examines 0 items supply
  | below tag bound =>
      simp only [visitFrom_eq_visitList, List.range_eq_range']
      exact run_visitList_fixed examines 0 _ supply
  | oneShot iterator =>
      simp only [run_bind_of_ok (run_remaining iterator supply), List.nil_append]
      rw [run_visitList examines (run_leave iterator) _ 0 (supply.leave_remaining iterator)]
      exact fun first second supply => supply.leave_leave iterator first second

/-- Taking all members of a value at once uses an iterator up. -/
theorem run_membersOf {value : Value} (iterable : value.members ≠ .absent) (supply : Supply) :
    (membersOf value).run supply =
      ⟨.ok (supply.membersOf value), supply.leaveTo value [], []⟩ := by
  unfold membersOf Supply.membersOf Supply.leaveTo
  cases source : value.members with
  | absent => exact absurd source iterable
  | fixed items => rfl
  | below tag bound => rfl
  | oneShot iterator => rfl

end Build
end PathSets
