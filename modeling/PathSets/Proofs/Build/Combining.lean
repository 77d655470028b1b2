import PathSets.Proofs.Build.Sifting
import PathSets.Value.Equality

/-!
# Sifting with combined sets

A set decides a path by its text, so a path is kept or not wherever it stands in a list and however
often it is repeated.  What a union or a difference keeps of a list of paths can therefore be told
from what its parts keep, by which paths are among these.
-/

namespace PathSets

namespace Value

/-- Whether a value counts as equal to a member of a list. -/
def isAmong (value : Value) (members : List Value) : Bool :=
  members.any fun member => member.alike value

theorem isAmong_iff {value : Value} {members : List Value} :
    value.isAmong members = true ↔ ∃ member ∈ members, member.alike value = true :=
  List.any_eq_true

/-- Two texts count as equal if their content is the same, on whatever occasions they were made. -/
theorem alike_iff_text?_eq {left right : Value} (leftText : left.text?.isSome = true)
    (rightText : right.text?.isSome = true) :
    left.alike right = true ↔ left.text? = right.text? := by
  have exists_datum {value : Value} (isText : value.text?.isSome = true) :
      ∃ tag content, value = .datum tag (.text content) := by
    unfold text? at isText
    split at isText
    case h_1 tag content => exact ⟨tag, content, rfl⟩
    case h_2 => cases isText
  obtain ⟨leftTag, first, rfl⟩ := exists_datum leftText
  obtain ⟨rightTag, second, rfl⟩ := exists_datum rightText
  have same_of_same : (Value.datum leftTag (.text first)).same (.datum rightTag (.text second)) →
      first = second := by
    simp only [same, Bool.and_eq_true, beq_iff_eq, Datum.text.injEq]
    exact And.left
  have equal_iff : (Value.datum leftTag (.text first)).equal (.datum rightTag (.text second)) ↔
      first = second := by
    simp [equal, Datum.equal, Datum.essence]
  rw [alike, Bool.or_eq_true, equal_iff, or_iff_right_of_imp same_of_same]
  exact Option.some_inj.symm

end Value

namespace PathSet

variable {ι : Type} {value : Value} {tag : ι}

theorem holds_difference (included excluded : PathSet ι) :
    (difference tag included excluded).holds value =
      (included.holds value && !excluded.holds value) := by
  cases text : value.text? <;> simp [holds, text]

theorem holds_union_pair (left right : PathSet ι) :
    (union tag [left, right]).holds value = (left.holds value || right.holds value) := by
  cases text : value.text? <;> simp [holds, text]

theorem holds_congr {other : Value} (set : PathSet ι) (same : value.text? = other.text?) :
    set.holds value = set.holds other := by
  simp only [holds, same]

theorem fault?_of_text (set : PathSet ι) (isText : value.text?.isSome = true) :
    set.fault? value = none := by
  obtain ⟨path, text⟩ := Option.isSome_iff_exists.mp isText
  simp [fault?, text]

variable {paths : List Value} {path : Value}

/-- A path is among those kept exactly if it is kept itself. -/
theorem isAmong_filter_holds (set : PathSet ι) (texts : ∀ path ∈ paths, path.text?.isSome = true)
    (member : path ∈ paths) : path.isAmong (paths.filter set.holds) = set.holds path := by
  rw [Bool.eq_iff_iff, Value.isAmong_iff]
  constructor
  · rintro ⟨other, kept, alike⟩
    obtain ⟨inPaths, holds⟩ := List.mem_filter.mp kept
    have same := (Value.alike_iff_text?_eq (texts other inPaths) (texts path member)).mp alike
    rwa [← set.holds_congr same]
  · intro holds
    exact ⟨path, List.mem_filter.mpr ⟨member, holds⟩,
      (Value.alike_iff_text?_eq (texts path member) (texts path member)).mpr rfl⟩

end PathSet

/-- What one of two predicates holds of, and what both hold of, are together as many as what each
of them holds of. -/
theorem length_filter_or_add_length_filter_and {α : Type} (first second : α → Bool)
    (members : List α) :
    (members.filter fun member => first member || second member).length +
        (members.filter fun member => first member && second member).length =
      (members.filter first).length + (members.filter second).length := by
  induction members with
  | nil => rfl
  | cons member rest ih =>
      cases inFirst : first member <;> cases inSecond : second member <;>
        simp [inFirst, inSecond] <;> omega

namespace Build

variable {audience : Audience} {paths others : List Value}

theorem visitList_testMember (set : PathSet Tag)
    (texts : ∀ path ∈ paths, path.text?.isSome = true) (index : Nat) :
    (visitList (fun _ => pure ()) (testMember set.test) index paths : Build audience _) =
      pure (paths.map fun path => (path, set.holds path)) := by
  induction paths generalizing index with
  | nil => rfl
  | cons path rest ih =>
      rw [List.forall_mem_cons] at texts
      have tested : testMember set.test index path =
          (pure (path, set.holds path) : Build audience _) := by
        rw [testMember, set.test_subject, set.fault?_of_text texts.1]
        rfl
      simp only [visitList, tested, ih texts.2, pure_bind, List.map_cons]

/-- Of a list of paths, a set keeps its own in order, and nothing else happens. -/
theorem sift_list (set : PathSet Tag) (texts : ∀ path ∈ paths, path.text?.isSome = true)
    (tag : Tag) :
    (sift set (.list tag paths) : Build audience _) = pure (paths.filter set.holds) := by
  by_cases empty : set.kind = .emptySet
  · cases set with
    | empty own =>
        have nothing : paths.filter (PathSet.empty own).holds = [] :=
          List.filter_eq_nil_iff.mpr fun path _ => Bool.eq_false_iff.mp
            (PathSet.holds_of_not_reaches rfl path)
        rw [nothing]
        rfl
    | blank | single | anyOf | union | difference => cases empty
  · rw [sift_eq_siftBy empty, siftBy_eq_visit, ← held_map_pair]
    simp only [visit, Value.members, visitList_testMember set texts, pure_bind]

theorem sift_list_filter (set : PathSet Tag) (texts : ∀ path ∈ paths, path.text?.isSome = true)
    (kept : Value → Bool) (tag : Tag) :
    (sift set (.list tag (paths.filter kept)) : Build audience _) =
      pure ((paths.filter kept).filter set.holds) :=
  sift_list set (fun path member => texts path (List.mem_filter.mp member).1) tag

section Laws

variable (a b : PathSet Tag) (own tag other : Tag)

/-- A difference keeps what its first set keeps without what is among the paths that its second set
keeps. -/
theorem sift_difference (texts : ∀ path ∈ paths, path.text?.isSome = true) :
    (sift (.difference own a b) (.list tag paths) : Build audience _) = do
      let first ← sift a (.list tag paths)
      let second ← sift b (.list tag paths)
      return first.filter fun path => !path.isAmong second := by
  simp only [sift_list _ texts, pure_bind]
  congr 1
  rw [List.filter_filter]
  refine List.filter_congr fun path member => ?_
  rw [PathSet.holds_difference, b.isAmong_filter_holds texts member, Bool.and_comm]

/-- A union keeps what is among the paths that one of its sets keeps. -/
theorem sift_union (texts : ∀ path ∈ paths, path.text?.isSome = true) :
    (sift (.union own [a, b]) (.list tag paths) : Build audience _) = do
      let first ← sift a (.list tag paths)
      let second ← sift b (.list tag paths)
      return paths.filter fun path => path.isAmong first || path.isAmong second := by
  simp only [sift_list _ texts, pure_bind]
  congr 1
  refine List.filter_congr fun path member => ?_
  rw [PathSet.holds_union_pair, a.isAmong_filter_holds texts member,
    b.isAmong_filter_holds texts member]

theorem sift_sift (texts : ∀ path ∈ paths, path.text?.isSome = true) :
    (do sift a (.list other (← sift b (.list tag paths))) : Build audience _) =
      pure (paths.filter fun path => a.holds path && b.holds path) := by
  simp only [sift_list _ texts, pure_bind, sift_list_filter _ texts, List.filter_filter]

/-- What two sets keep one after the other is what their common paths keep. -/
theorem sift_difference_difference (texts : ∀ path ∈ paths, path.text?.isSome = true) :
    (sift (.difference own a (.difference other a b)) (.list tag paths) : Build audience _) =
      pure (paths.filter fun path => a.holds path && b.holds path) := by
  rw [sift_list _ texts]
  congr 1
  refine List.filter_congr fun path _ => ?_
  rw [PathSet.holds_difference, PathSet.holds_difference]
  cases a.holds path <;> simp

end Laws

/-- Sifting lists of paths, with repetitions, respects the algebra of sets.  It never fails and
keeps the paths of the set in order.  A difference keeps what its first set keeps without all that
its second set keeps too.  Two sets one after the other, in either order, keep what the difference
of the first set and their difference keeps.  A union keeps each path that one of its sets keeps, as
often as the path is given, and together with what both sets keep it keeps as many as the two do.
Sifting again changes nothing, and lists one behind the other are sifted one behind the other. -/
theorem sift_respects_algebra (audience : Audience) (a b : PathSet Tag) (tag : Nat → Tag)
    {paths others : List Value} (texts : ∀ path ∈ paths ++ others, path.text?.isSome = true) :
    let given := Value.list (tag 0) paths
    (∀ set : PathSet Tag,
        (sift set given : Build audience _) = pure (paths.filter set.holds)) ∧
      ((sift (.difference (tag 1) a b) given : Build audience _) = do
        let first ← sift a given
        let second ← sift b given
        return first.filter fun path => !path.isAmong second) ∧
      ((do sift a (.list (tag 2) (← sift b given)) : Build audience _) =
        (do sift b (.list (tag 3) (← sift a given)))) ∧
      ((do sift a (.list (tag 2) (← sift b given)) : Build audience _) =
        sift (.difference (tag 4) a (.difference (tag 5) a b)) given) ∧
      ((sift (.union (tag 6) [a, b]) given : Build audience _) = do
        let first ← sift a given
        let second ← sift b given
        return paths.filter fun path => path.isAmong first || path.isAmong second) ∧
      ((do
        let either ← sift (.union (tag 6) [a, b]) given
        let both ← sift a (.list (tag 2) (← sift b given))
        return either.length + both.length : Build audience _) = do
        let first ← sift a given
        let second ← sift b given
        return first.length + second.length) ∧
      (do sift a (.list (tag 7) (← sift a given)) : Build audience _) = sift a given ∧
      (sift a (.list (tag 8) (paths ++ others)) : Build audience _) = do
        return (← sift a given) ++ (← sift a (.list (tag 9) others)) := by
  have textsPaths (path : Value) (member : path ∈ paths) : path.text?.isSome = true :=
    texts path (List.mem_append_left others member)
  have textsOthers (path : Value) (member : path ∈ others) : path.text?.isSome = true :=
    texts path (List.mem_append_right paths member)
  intro given
  have once (set : PathSet Tag) :
      (sift set given : Build audience _) = pure (paths.filter set.holds) :=
    sift_list set textsPaths (tag 0)
  refine ⟨once, sift_difference a b _ _ textsPaths, ?_, ?_, sift_union a b _ _ textsPaths, ?_, ?_,
    ?_⟩
  · rw [sift_sift a b _ _ textsPaths, sift_sift b a _ _ textsPaths]
    simp only [Bool.and_comm]
  · rw [sift_sift a b _ _ textsPaths, sift_difference_difference a b _ _ _ textsPaths]
  · have either : (PathSet.union (tag 6) [a, b]).holds = fun path => a.holds path || b.holds path :=
      funext fun path => PathSet.holds_union_pair a b
    simp only [once, pure_bind, sift_list_filter _ textsPaths, List.filter_filter, either,
      length_filter_or_add_length_filter_and]
  · rw [sift_sift a a _ _ textsPaths, once]
    simp only [Bool.and_self]
  · rw [once, sift_list a texts, sift_list a textsOthers, List.filter_append]
    rfl

/-- Two equal texts are both kept and both taken away, although they were made on two occasions. -/
theorem sift_respects_algebra_of_equal_texts :
    let paths : List Value :=
      [.datum 3 (.text "ab"), .datum 4 (.text "c"), .datum 5 (.text "ab"), .datum 6 (.text "a/b")]
    let given := Value.list 7 paths
    let a := PathSet.single 1 ⟨"*"⟩
    let b := PathSet.anyOf 2 [⟨"a*"⟩]
    (∀ path ∈ paths ++ [], path.text?.isSome = true) ∧
      (sift b given : Build .scribe _) = pure [.datum 3 (.text "ab"), .datum 5 (.text "ab")] ∧
      ((sift (.difference 8 a b) given : Build .scribe _) = do
        let first ← sift a given
        let second ← sift b given
        return first.filter fun path => !path.isAmong second) ∧
      (sift (.difference 8 a b) given : Build .scribe _) = pure [.datum 4 (.text "c")] := by
  intro paths given a b
  have texts : ∀ path ∈ paths ++ [], path.text?.isSome = true := by decide
  obtain ⟨kept, difference, -⟩ :=
    sift_respects_algebra .scribe a b (fun place => place + 7) texts
  exact ⟨texts, kept b, difference, kept (.difference 8 a b)⟩

end Build
end PathSets
