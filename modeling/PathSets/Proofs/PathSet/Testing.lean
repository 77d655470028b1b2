import PathSets.PathSet.Membership
import PathSets.Proofs.Glob.Language
import PathSets.Value.Basic

/-!
# What sets say of paths

A search through a list ends at the first member that holds or at the first fault.  Of a text, no
glob makes a fault, so a set says whether the text is one of its paths.  Of anything else, every
glob makes the same fault and nothing holds, so no search ends before it comes to a glob, and a
difference never asks its second set.
-/

namespace PathSets

/-! ## Searches -/

section Search

variable {α : Type} {items : List α} {ask : α → Except Fault Bool}

theorem anyM_cons (item : α) (rest : List α) :
    (item :: rest).anyM ask = (do if ← ask item then return true else rest.anyM ask) := by
  rw [List.anyM]
  congr 1
  funext holds
  cases holds <;> rfl

theorem anyM_of_forall_ok {holds : α → Bool} (each : ∀ item ∈ items, ask item = .ok (holds item)) :
    items.anyM ask = .ok (items.any holds) := by
  induction items with
  | nil => rfl
  | cons item rest ih =>
      rw [List.forall_mem_cons] at each
      rw [anyM_cons, each.1, List.any_cons]
      cases holds item with
      | true => rfl
      | false => exact ih each.2

theorem anyM_of_forall_fault {fault : Fault} {reaches : α → Bool}
    (each : ∀ item ∈ items, ask item = if reaches item then .error fault else .ok false) :
    items.anyM ask = if items.any reaches then .error fault else .ok false := by
  induction items with
  | nil => rfl
  | cons item rest ih =>
      rw [List.forall_mem_cons] at each
      rw [anyM_cons, each.1, List.any_cons]
      cases reaches item with
      | true => rfl
      | false => exact ih each.2

end Search

theorem Glob.testAny_eq_anyM (subject : Subject) (globs : List Glob) :
    Glob.testAny subject globs = globs.anyM fun glob => glob.test subject := by
  induction globs with
  | nil => rfl
  | cons glob rest ih => rw [Glob.testAny, anyM_cons, ih]

namespace PathSet

variable {ι : Type}

theorem testAny_eq_anyM (subject : Subject) (sets : List (PathSet ι)) :
    testAny subject sets = sets.anyM fun set => set.test subject := by
  induction sets with
  | nil => rfl
  | cons set rest ih => rw [testAny, anyM_cons, ih]

/-- Induction over sets, with one hypothesis for all members of a union. -/
@[elab_as_elim]
theorem memberInduction {motive : PathSet ι → Prop} (empty : ∀ tag, motive (.empty tag))
    (blank : ∀ tag, motive (.blank tag)) (single : ∀ tag glob, motive (.single tag glob))
    (anyOf : ∀ tag globs, motive (.anyOf tag globs))
    (union : ∀ tag members, (∀ set ∈ members, motive set) → motive (.union tag members))
    (difference : ∀ tag included excluded, motive included → motive excluded →
      motive (.difference tag included excluded)) : ∀ set, motive set
  | .empty tag => empty tag
  | .blank tag => blank tag
  | .single tag glob => single tag glob
  | .anyOf tag globs => anyOf tag globs
  | .union tag members => union tag members fun set _ =>
      memberInduction empty blank single anyOf union difference set
  | .difference tag included excluded =>
      difference tag included excluded
        (memberInduction empty blank single anyOf union difference included)
        (memberInduction empty blank single anyOf union difference excluded)

/-! ## The paths of a set -/

variable {path : String} {tag : ι}

theorem anyContains_iff {sets : List (PathSet ι)} :
    AnyContains path sets ↔ ∃ set ∈ sets, path ∈ set := by
  induction sets with
  | nil => simp [AnyContains]
  | cons set rest ih =>
      simp only [AnyContains, ih, List.mem_cons, exists_eq_or_imp]
      rfl

@[simp] theorem not_mem_empty : path ∉ PathSet.empty tag := id

@[simp] theorem not_mem_blank : path ∉ PathSet.blank tag := id

@[simp] theorem mem_single_iff {glob : Glob} : path ∈ PathSet.single tag glob ↔ path ∈ glob :=
  Iff.rfl

@[simp] theorem mem_anyOf_iff {globs : List Glob} :
    path ∈ PathSet.anyOf tag globs ↔ ∃ glob ∈ globs, path ∈ glob :=
  Iff.rfl

@[simp] theorem mem_union_iff {members : List (PathSet ι)} :
    path ∈ PathSet.union tag members ↔ ∃ set ∈ members, path ∈ set :=
  anyContains_iff

@[simp] theorem mem_difference_iff {included excluded : PathSet ι} :
    path ∈ PathSet.difference tag included excluded ↔ path ∈ included ∧ path ∉ excluded :=
  Iff.rfl

mutual

/-- Decide whether a path is in a set by the languages of its globs. -/
def decideContains (path : String) : (set : PathSet ι) → Decidable (set.Contains path)
  | .empty _ => inferInstanceAs (Decidable False)
  | .blank _ => inferInstanceAs (Decidable False)
  | .single _ glob => inferInstanceAs (Decidable (path ∈ glob))
  | .anyOf _ globs => inferInstanceAs (Decidable (∃ glob ∈ globs, path ∈ glob))
  | .union _ members => decideAnyContains path members
  | .difference _ included excluded =>
      have := decideContains path included
      have := decideContains path excluded
      inferInstanceAs (Decidable (included.Contains path ∧ ¬excluded.Contains path))

/-- Decide whether a path is in some set of a list. -/
def decideAnyContains (path : String) :
    (sets : List (PathSet ι)) → Decidable (AnyContains path sets)
  | [] => inferInstanceAs (Decidable False)
  | set :: rest =>
      have := decideContains path set
      have := decideAnyContains path rest
      inferInstanceAs (Decidable (set.Contains path ∨ AnyContains path rest))

end

instance (set : PathSet ι) (path : String) : Decidable (path ∈ set) :=
  decideContains path set

/-- A set says of every path whether it is one of its paths. -/
theorem test_text (set : PathSet ι) (path : String) :
    set.test (.text path) = .ok (decide (path ∈ set)) := by
  induction set using memberInduction with
  | empty tag => rfl
  | blank tag => rfl
  | single tag glob => exact glob.test_text path
  | anyOf tag globs =>
      rw [test, Glob.testAny_eq_anyM, anyM_of_forall_ok fun glob _ => glob.test_text path]
      simp [List.any_eq]
  | union tag members ih =>
      rw [test, testAny_eq_anyM, anyM_of_forall_ok ih]
      simp [List.any_eq]
  | difference tag included excluded ihIncluded ihExcluded =>
      rw [test, ihIncluded, ihExcluded]
      by_cases inside : path ∈ included <;> simp [inside, bind, Except.bind, pure, Except.pure]

/-! ## What comes to a glob -/

theorem anyReaches_eq_any (sets : List (PathSet ι)) : anyReaches sets = sets.any reaches := by
  induction sets with
  | nil => rfl
  | cons set rest ih => rw [anyReaches, List.any_cons, ih]

/-- Of a subject that every glob refuses, a set makes a fault exactly if it comes to a glob. -/
theorem test_of_refused {subject : Subject} {fault : Fault}
    (refused : ∀ glob : Glob, glob.test subject = .error fault) (set : PathSet ι) :
    set.test subject = if set.reaches then .error fault else .ok false := by
  induction set using memberInduction with
  | empty tag => rfl
  | blank tag => rfl
  | single tag glob => exact refused glob
  | anyOf tag globs =>
      cases globs with
      | nil => rfl
      | cons glob rest =>
          rw [test, Glob.testAny, refused]
          rfl
  | union tag members ih =>
      rw [test, testAny_eq_anyM, anyM_of_forall_fault ih, reaches, anyReaches_eq_any]
  | difference tag included excluded ihIncluded _ =>
      rw [test, ihIncluded, reaches]
      cases included.reaches <;> rfl

theorem not_mem_of_not_reaches {set : PathSet ι} (unreached : set.reaches = false) :
    path ∉ set := by
  induction set using memberInduction with
  | empty tag => exact not_mem_empty
  | blank tag => exact not_mem_blank
  | single tag glob => simp [reaches] at unreached
  | anyOf tag globs =>
      obtain rfl : globs = [] := by simpa [reaches] using unreached
      simp
  | union tag members ih =>
      rw [reaches, anyReaches_eq_any, List.any_eq_false] at unreached
      intro inside
      obtain ⟨set, member, insideMember⟩ := mem_union_iff.mp inside
      have unreachedMember : set.reaches = false := Bool.eq_false_iff.mpr (unreached set member)
      exact ih set member unreachedMember insideMember
  | difference tag included excluded ihIncluded _ =>
      exact fun inside => ihIncluded unreached inside.1

end PathSet

/-! ## Values as paths -/

/-- The fault of a value of a kind that is no text, where a path is needed. -/
def Kind.pathFault (kind : Kind) : Fault :=
  if kind.isBinary then .pathBinary else .pathNotText kind

theorem Value.subject_of_text? {value : Value} {path : String} (isText : value.text? = some path) :
    value.subject = .text path := by
  cases value with
  | datum tag held =>
      cases held with
      | text content =>
          obtain rfl : content = path := Option.some.inj isText
          rfl
      | none | bool | int | float | level | bytes | byteArray | range => cases isText
  | list | tuple | set | dict | iterator | object | collection | pathSet | looseUnion
  | looseDifference =>
      cases isText

theorem Value.subject_of_not_text {value : Value} (notText : value.text? = none) :
    value.subject = if value.kind.isBinary then .binary else .foreign value.kind := by
  cases value with
  | datum tag held =>
      cases held with
      | text content => cases notText
      | none | bool | int | float | level | bytes | byteArray | range => rfl
  | list | tuple | set | dict | iterator | object | collection | pathSet | looseUnion
  | looseDifference =>
      rfl

theorem Glob.test_subject_of_not_text (glob : Glob) {value : Value} (notText : value.text? = none) :
    glob.test value.subject = .error value.kind.pathFault := by
  rw [Value.subject_of_not_text notText, Kind.pathFault]
  split <;> rfl

namespace PathSet

variable {ι : Type}

theorem test_subject_of_not_text (set : PathSet ι) {value : Value} (notText : value.text? = none) :
    set.test value.subject = if set.reaches then .error value.kind.pathFault else .ok false :=
  test_of_refused (fun glob => glob.test_subject_of_not_text notText) set

/-- The fault that a set makes of a value as a path, if it makes one. -/
def fault? (set : PathSet ι) (value : Value) : Option Fault :=
  if value.text?.isNone && set.reaches then some value.kind.pathFault else none

/-- Whether a value is one of the paths of a set. -/
def holds (set : PathSet ι) (value : Value) : Bool :=
  value.text?.any fun path => decide (path ∈ set)

theorem test_subject (set : PathSet ι) (value : Value) :
    set.test value.subject =
      match set.fault? value with
      | some fault => .error fault
      | none => .ok (set.holds value) := by
  cases text : value.text? with
  | some path => simp [Value.subject_of_text? text, test_text, fault?, holds, text]
  | none =>
      rw [test_subject_of_not_text set text]
      cases reached : set.reaches <;> simp [fault?, holds, text, reached]

end PathSet
end PathSets
