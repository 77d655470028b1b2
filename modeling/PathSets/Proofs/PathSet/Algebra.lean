import Mathlib.Logic.Basic
import Mathlib.Tactic.Tauto
import PathSets.Proofs.PathSet.Testing

/-!
# The algebra of sets

Two sets behave alike when they say the same of every subject, faults included.  What a set says is
known from its paths and from whether it comes to a glob, so a law of sets is a law of propositions
together with a law of truth values.
-/

namespace PathSets
namespace PathSet

variable {ι : Type}

/-- Whether two sets say the same of every subject. -/
def BehavesAs (left right : PathSet ι) : Prop :=
  ∀ subject, left.test subject = right.test subject

/-- Two sets behave alike exactly if they have the same paths and both or neither come to a glob,
which bytes show, since every glob refuses them. -/
theorem behavesAs_iff {left right : PathSet ι} :
    left.BehavesAs right ↔ (∀ path, path ∈ left ↔ path ∈ right) ∧ left.reaches = right.reaches := by
  constructor
  · intro alike
    constructor
    · intro path
      have answers := alike (.text path)
      rw [test_text, test_text, Except.ok.injEq] at answers
      exact decide_eq_decide.mp answers
    · have answers := alike .binary
      have refused (glob : Glob) : glob.test .binary = .error .pathBinary := rfl
      rw [test_of_refused refused, test_of_refused refused] at answers
      cases reachesLeft : left.reaches <;> cases reachesRight : right.reaches <;>
        simp [reachesLeft, reachesRight] at answers ⊢
  · rintro ⟨samePaths, sameReach⟩ subject
    cases subject with
    | text path =>
        rw [test_text, test_text, Except.ok.injEq]
        exact decide_eq_decide.mpr (samePaths path)
    | binary =>
        rw [test_of_refused fun _ => rfl, test_of_refused fun _ => rfl, sameReach]
    | foreign kind =>
        rw [test_of_refused fun _ => rfl, test_of_refused fun _ => rfl, sameReach]

@[simp] theorem reaches_empty (tag : ι) : (PathSet.empty tag).reaches = false := rfl

@[simp] theorem reaches_single (tag : ι) (glob : Glob) : (PathSet.single tag glob).reaches = true :=
  rfl

@[simp] theorem reaches_anyOf (tag : ι) (globs : List Glob) :
    (PathSet.anyOf tag globs).reaches = !globs.isEmpty := rfl

@[simp] theorem reaches_union (tag : ι) (members : List (PathSet ι)) :
    (PathSet.union tag members).reaches = members.any reaches :=
  anyReaches_eq_any members

@[simp] theorem reaches_difference (tag : ι) (included excluded : PathSet ι) :
    (PathSet.difference tag included excluded).reaches = included.reaches := rfl

/-! ## Unions -/

/-- Only which members a union has matters, not in which order or how often. -/
theorem union_behavesAs_of_same_members {left right : List (PathSet ι)}
    (same : ∀ set, set ∈ left ↔ set ∈ right) (first second : ι) :
    (PathSet.union first left).BehavesAs (.union second right) := by
  refine behavesAs_iff.mpr ⟨fun path => ?_, ?_⟩
  · simp only [mem_union_iff, same]
  · rw [reaches_union, reaches_union, Bool.eq_iff_iff, List.any_eq_true, List.any_eq_true]
    simp only [same]

theorem anyOf_behavesAs_of_same_members {left right : List Glob}
    (same : ∀ glob, glob ∈ left ↔ glob ∈ right) (first second : ι) :
    (PathSet.anyOf first left).BehavesAs (.anyOf second right) := by
  refine behavesAs_iff.mpr ⟨fun path => ?_, ?_⟩
  · simp only [mem_anyOf_iff, same]
  · have empty_iff : left = [] ↔ right = [] := by
      simp only [List.eq_nil_iff_forall_not_mem, same]
    rw [reaches_anyOf, reaches_anyOf, Bool.not_inj_iff, Bool.eq_iff_iff, List.isEmpty_iff,
      List.isEmpty_iff, empty_iff]

theorem anyOf_behavesAs_union_single (first second : ι) (leaves : List (ι × Glob)) :
    (PathSet.anyOf first (leaves.map Prod.snd)).BehavesAs
      (.union second (leaves.map fun leaf => .single leaf.1 leaf.2)) := by
  refine behavesAs_iff.mpr ⟨fun path => ?_, ?_⟩
  · simp only [mem_anyOf_iff, mem_union_iff, List.mem_map, exists_exists_and_eq_and,
      mem_single_iff]
  · cases leaves <;> simp

/-- A member that comes to no glob has no paths either and can be left out. -/
theorem union_behavesAs_without {set : PathSet ι} (unreached : set.reaches = false)
    (first second : ι) (front back : List (PathSet ι)) :
    (PathSet.union first (front ++ set :: back)).BehavesAs (.union second (front ++ back)) := by
  refine behavesAs_iff.mpr ⟨fun path => ?_, ?_⟩
  · have outside : path ∉ set := not_mem_of_not_reaches unreached
    simp [or_and_right, exists_or, outside]
  · simp [unreached]

mutual

/-- The sets that a nest of unions is made of, from left to right. -/
def parts : PathSet ι → List (PathSet ι)
  | .union _ members => allParts members
  | set => [set]

/-- The sets that the nests of a list are made of, from left to right. -/
def allParts : List (PathSet ι) → List (PathSet ι)
  | [] => []
  | set :: rest => set.parts ++ allParts rest

end

theorem allParts_eq_flatMap (sets : List (PathSet ι)) : allParts sets = sets.flatMap parts := by
  induction sets with
  | nil => rfl
  | cons set rest ih => rw [allParts, List.flatMap_cons, ih]

/-- A member of a union can be replaced by sets whose union it behaves like. -/
theorem union_behavesAs_flatMap {members : List (PathSet ι)}
    {pieces : PathSet ι → List (PathSet ι)} {tag : ι}
    (each : ∀ member ∈ members, member.BehavesAs (.union tag (pieces member)))
    (first second : ι) :
    (PathSet.union first members).BehavesAs (.union second (members.flatMap pieces)) := by
  have known (member : PathSet ι) (isMember : member ∈ members) :=
    behavesAs_iff.mp (each member isMember)
  refine behavesAs_iff.mpr ⟨fun path => ?_, ?_⟩
  · rw [mem_union_iff, mem_union_iff]
    constructor
    · rintro ⟨member, isMember, inside⟩
      obtain ⟨piece, isPiece, insidePiece⟩ :=
        mem_union_iff.mp (((known member isMember).1 path).mp inside)
      exact ⟨piece, List.mem_flatMap.mpr ⟨member, isMember, isPiece⟩, insidePiece⟩
    · rintro ⟨piece, isPiece, insidePiece⟩
      obtain ⟨member, isMember, isPiece⟩ := List.mem_flatMap.mp isPiece
      exact ⟨member, isMember,
        ((known member isMember).1 path).mpr (mem_union_iff.mpr ⟨piece, isPiece, insidePiece⟩)⟩
  · have sameReach (member : PathSet ι) (isMember : member ∈ members) :
        member.reaches = (pieces member).any reaches := by
      rw [(known member isMember).2, reaches_union]
    rw [reaches_union, reaches_union, List.any_flatMap, Bool.eq_iff_iff, List.any_eq_true,
      List.any_eq_true]
    constructor
    · rintro ⟨member, isMember, reached⟩
      exact ⟨member, isMember, sameReach member isMember ▸ reached⟩
    · rintro ⟨member, isMember, reached⟩
      exact ⟨member, isMember, (sameReach member isMember).symm ▸ reached⟩

/-- A set behaves like the union of its parts, however deep the unions are nested. -/
theorem behavesAs_union_parts (set : PathSet ι) (tag : ι) :
    set.BehavesAs (.union tag set.parts) := by
  induction set using memberInduction with
  | empty | blank | single | anyOf | difference =>
      refine behavesAs_iff.mpr ⟨fun path => ?_, ?_⟩ <;> simp [parts]
  | union own members ih =>
      rw [parts, allParts_eq_flatMap]
      exact union_behavesAs_flatMap ih own tag

theorem union_behavesAs_flat (first second third : ι) (front inner back : List (PathSet ι)) :
    (PathSet.union first (front ++ .union second inner :: back)).BehavesAs
      (.union third (front ++ inner ++ back)) := by
  refine behavesAs_iff.mpr ⟨fun path => ?_, ?_⟩
  · simp [or_and_right, exists_or]
  · simp

/-! ## Differences -/

theorem mem_union_pair_iff {path : String} {tag : ι} {left right : PathSet ι} :
    path ∈ PathSet.union tag [left, right] ↔ path ∈ left ∨ path ∈ right := by
  simp

theorem difference_behavesAs_of_excluded_not_reaches {excluded : PathSet ι}
    (unreached : excluded.reaches = false) (included : PathSet ι) (tag : ι) :
    (PathSet.difference tag included excluded).BehavesAs included := by
  refine behavesAs_iff.mpr ⟨fun path => ?_, reaches_difference tag included excluded⟩
  have outside : path ∉ excluded := not_mem_of_not_reaches unreached
  rw [mem_difference_iff, and_iff_left outside]

theorem difference_behavesAs_of_included_not_reaches {included : PathSet ι}
    (unreached : included.reaches = false) (excluded : PathSet ι) (first second : ι) :
    (PathSet.difference first included excluded).BehavesAs (.empty second) := by
  refine behavesAs_iff.mpr ⟨fun path => ?_, ?_⟩
  · have outside : path ∉ included := not_mem_of_not_reaches unreached
    simp [outside]
  · rw [reaches_difference, unreached, reaches_empty]

section Laws

variable (tag : Nat → ι) (a b c : PathSet ι)

theorem difference_union_behavesAs :
    (PathSet.difference (tag 0) a (.union (tag 1) [b, c])).BehavesAs
      (.difference (tag 2) (.difference (tag 3) a b) c) := by
  refine behavesAs_iff.mpr ⟨fun path => ?_, by simp⟩
  rw [mem_difference_iff, mem_union_pair_iff, mem_difference_iff, mem_difference_iff, not_or,
    and_assoc]

theorem union_difference_behavesAs :
    (PathSet.difference (tag 0) (.union (tag 1) [a, b]) c).BehavesAs
      (.union (tag 2) [.difference (tag 3) a c, .difference (tag 4) b c]) := by
  refine behavesAs_iff.mpr ⟨fun path => ?_, by simp⟩
  rw [mem_difference_iff, mem_union_pair_iff, mem_union_pair_iff, mem_difference_iff,
    mem_difference_iff, or_and_right]

/-- What a difference does not take away was not in its first set, or is in its second. -/
theorem difference_difference_behavesAs :
    (PathSet.difference (tag 0) a (.difference (tag 1) b c)).BehavesAs
      (.union (tag 2) [.difference (tag 3) a b,
        .difference (tag 4) a (.difference (tag 5) a c)]) := by
  refine behavesAs_iff.mpr ⟨fun path => ?_, by simp⟩
  simp only [mem_union_pair_iff, mem_difference_iff]
  tauto

/-- The laws of unions and differences, for every subject and with every fault: a union depends
only on which members it has, and nested unions can be flattened; a set of globs is the union of
its globs; what comes to no glob can be left out; and differences distribute as those of sets of
texts do. -/
theorem behavesAs_laws :
    (∀ left right : List (PathSet ι), (∀ set, set ∈ left ↔ set ∈ right) →
        (PathSet.union (tag 0) left).BehavesAs (.union (tag 1) right)) ∧
      (∀ front inner back : List (PathSet ι),
        (PathSet.union (tag 0) (front ++ .union (tag 1) inner :: back)).BehavesAs
          (.union (tag 2) (front ++ inner ++ back))) ∧
      (∀ set : PathSet ι, set.BehavesAs (.union (tag 0) set.parts)) ∧
      (∀ leaves : List (ι × Glob),
        (PathSet.anyOf (tag 0) (leaves.map Prod.snd)).BehavesAs
          (.union (tag 1) (leaves.map fun leaf => .single leaf.1 leaf.2))) ∧
      (∀ left right : List Glob, (∀ glob, glob ∈ left ↔ glob ∈ right) →
        (PathSet.anyOf (tag 0) left).BehavesAs (.anyOf (tag 1) right)) ∧
      (∀ nothing ∈ [PathSet.empty (tag 0), .anyOf (tag 0) [], .union (tag 0) []],
        ∀ front back : List (PathSet ι),
          (PathSet.union (tag 1) (front ++ nothing :: back)).BehavesAs
            (.union (tag 2) (front ++ back))) ∧
      (PathSet.difference (tag 0) a (.empty (tag 1))).BehavesAs a ∧
      (PathSet.difference (tag 0) (.empty (tag 1)) a).BehavesAs (.empty (tag 2)) ∧
      (PathSet.difference (tag 0) a (.union (tag 1) [b, c])).BehavesAs
        (.difference (tag 2) (.difference (tag 3) a b) c) ∧
      (PathSet.difference (tag 0) (.union (tag 1) [a, b]) c).BehavesAs
        (.union (tag 2) [.difference (tag 3) a c, .difference (tag 4) b c]) ∧
      (PathSet.difference (tag 0) a (.difference (tag 1) b c)).BehavesAs
        (.union (tag 2) [.difference (tag 3) a b,
          .difference (tag 4) a (.difference (tag 5) a c)]) := by
  have unreached : ∀ nothing ∈ [PathSet.empty (tag 0), .anyOf (tag 0) [], .union (tag 0) []],
      nothing.reaches = false := by
    simp
  refine ⟨fun left right same => union_behavesAs_of_same_members same _ _,
    union_behavesAs_flat _ _ _, fun set => behavesAs_union_parts set _,
    anyOf_behavesAs_union_single _ _,
    fun left right same => anyOf_behavesAs_of_same_members same _ _,
    fun nothing isNothing => union_behavesAs_without (unreached nothing isNothing) _ _,
    difference_behavesAs_of_excluded_not_reaches rfl a _,
    difference_behavesAs_of_included_not_reaches rfl a _ _, ?_⟩
  exact ⟨difference_union_behavesAs tag a b c, union_difference_behavesAs tag a b c,
    difference_difference_behavesAs tag a b c⟩

end Laws

/-- A set that comes to no glob does not shield the globs behind it, wherever it stands and however
often they are repeated. -/
theorem behavesAs_of_blank_and_single :
    (∀ set, set ∈ [PathSet.blank 3, .single 4 ⟨"?"⟩] ↔
        set ∈ [PathSet.single 4 ⟨"?"⟩, .blank 3, .single 4 ⟨"?"⟩]) ∧
      (PathSet.union 0 [.blank 3, .single 4 ⟨"?"⟩]).BehavesAs
        (.union 1 [.single 4 ⟨"?"⟩, .blank 3, .single 4 ⟨"?"⟩]) ∧
      (PathSet.anyOf 0 [⟨"?"⟩, ⟨"*"⟩]).BehavesAs (.anyOf 1 [⟨"*"⟩, ⟨"?"⟩, ⟨"*"⟩]) ∧
      (PathSet.union 1 [.anyOf 0 [], .single 4 ⟨"?"⟩]).BehavesAs
        (.union 2 [.single 4 ⟨"?"⟩]) := by
  obtain ⟨unions, -, -, -, globSets, nothing, -⟩ :=
    behavesAs_laws id (.blank 0) (.blank 0) (.blank 0)
  have sameSets : ∀ set, set ∈ [PathSet.blank 3, .single 4 ⟨"?"⟩] ↔
      set ∈ [PathSet.single 4 ⟨"?"⟩, .blank 3, .single 4 ⟨"?"⟩] := by
    simp only [List.mem_cons, List.not_mem_nil]
    tauto
  have sameGlobs : ∀ glob, glob ∈ [Glob.mk "?", ⟨"*"⟩] ↔ glob ∈ [Glob.mk "*", ⟨"?"⟩, ⟨"*"⟩] := by
    simp only [List.mem_cons, List.not_mem_nil]
    tauto
  exact ⟨sameSets, unions _ _ sameSets, globSets _ _ sameGlobs,
    nothing (.anyOf 0 []) (by simp) [] [.single 4 ⟨"?"⟩]⟩

end PathSet
end PathSets
