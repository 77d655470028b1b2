import Mathlib.Data.List.Induction
import Mathlib.Data.List.Nodup

/-!
# First places

The members of a list without repetition, each where it was first given.  They can be kept while the
list is read: a member that was kept already is passed over, and any other is put behind those that
were kept.
-/

namespace PathSets

/-- The members of a list without repetition, in the order in which they were first given. -/
structure FirstGiven {α : Type} [DecidableEq α] (given kept : List α) : Prop where
  mem_iff : ∀ member, member ∈ kept ↔ member ∈ given
  nodup : kept.Nodup
  ordered : kept.Pairwise fun first second => given.idxOf first < given.idxOf second

namespace FirstGiven

variable {α : Type} [DecidableEq α] {given kept : List α} {last : α}

theorem nil : FirstGiven ([] : List α) [] :=
  ⟨fun _ => Iff.rfl, List.nodup_nil, .nil⟩

/-- What is given behind the members does not change the order of the members. -/
theorem ordered_append (first : FirstGiven given kept) (more : List α) :
    kept.Pairwise fun left right => (given ++ more).idxOf left < (given ++ more).idxOf right := by
  refine first.ordered.imp_of_mem fun {left right} inLeft inRight before => ?_
  rw [List.idxOf_append_of_mem ((first.mem_iff left).mp inLeft),
    List.idxOf_append_of_mem ((first.mem_iff right).mp inRight)]
  exact before

theorem append_of_mem (first : FirstGiven given kept) (again : last ∈ kept) :
    FirstGiven (given ++ [last]) kept where
  mem_iff member := by
    rw [List.mem_append, List.mem_singleton, ← first.mem_iff]
    constructor
    · exact Or.inl
    · rintro (held | rfl)
      · exact held
      · exact again
  nodup := first.nodup
  ordered := first.ordered_append [last]

theorem append_of_not_mem (first : FirstGiven given kept) (fresh : last ∉ kept) :
    FirstGiven (given ++ [last]) (kept ++ [last]) where
  mem_iff member := by rw [List.mem_append, List.mem_append, first.mem_iff]
  nodup := List.concat_eq_append ▸ first.nodup.concat fresh
  ordered := by
    have unseen : last ∉ given := fun member => fresh ((first.mem_iff last).mpr member)
    refine List.pairwise_append.mpr
      ⟨first.ordered_append [last], List.pairwise_singleton _ _, fun left member right isLast => ?_⟩
    obtain rfl := List.mem_singleton.mp isLast
    have inGiven := (first.mem_iff left).mp member
    have place := List.idxOf_lt_length_of_mem inGiven
    rw [List.idxOf_append_of_mem inGiven, List.idxOf_append_of_notMem unseen, List.idxOf_cons_self]
    omega

/-- Members that were given in front already can be given again. -/
theorem insert_of_subset {front again back : List α} (first : FirstGiven (front ++ back) kept)
    (subset : ∀ member ∈ again, member ∈ front) :
    FirstGiven (front ++ again ++ back) kept where
  mem_iff member := by
    rw [first.mem_iff, List.mem_append, List.mem_append, List.mem_append,
      or_iff_left_of_imp (subset member)]
  nodup := first.nodup
  ordered := by
    have seen_iff (member : α) : member ∈ front ++ again ↔ member ∈ front := by
      rw [List.mem_append, or_iff_left_of_imp (subset member)]
    refine first.ordered.imp fun {left right} before => ?_
    have inside : front.idxOf right ≤ front.length := List.idxOf_le_length
    by_cases inLeft : left ∈ front <;> by_cases inRight : right ∈ front <;>
      simp only [List.idxOf_append, seen_iff, inLeft, inRight, if_true, if_false,
        List.length_append] at before ⊢ <;> omega

theorem self_of_nodup (nodup : kept.Nodup) : FirstGiven kept kept := by
  induction kept using List.reverseRecOn with
  | nil => exact nil
  | append_singleton kept last ih =>
      obtain ⟨fresh, nodup⟩ := (List.nodup_concat kept last).mp (List.concat_eq_append ▸ nodup)
      exact (ih nodup).append_of_not_mem fresh

theorem idxOf_map_of_injective {β : Type} [DecidableEq β] {image : α → β}
    (injective : Function.Injective image) (given : List α) (member : α) :
    (given.map image).idxOf (image member) = given.idxOf member := by
  induction given with
  | nil => rfl
  | cons first rest ih => simp only [List.map_cons, List.idxOf_cons, beq_eq_decide,
      injective.eq_iff, ih]

/-- What tells the members apart is first given in the order of the members. -/
theorem map_of_injective {β : Type} [DecidableEq β] {image : α → β}
    (injective : Function.Injective image) (first : FirstGiven given kept) :
    FirstGiven (given.map image) (kept.map image) where
  mem_iff member := by simp only [List.mem_map, first.mem_iff]
  nodup := first.nodup.map injective
  ordered := by
    refine List.pairwise_map.mpr (first.ordered.imp fun before => ?_)
    rw [idxOf_map_of_injective injective, idxOf_map_of_injective injective]
    exact before

/-- There is one way only to keep the members of a list in first-given order. -/
theorem unique {other : List α} (first : FirstGiven given kept) (second : FirstGiven given other) :
    kept = other := by
  have same : kept.Perm other := (List.perm_ext_iff_of_nodup first.nodup second.nodup).mpr
    fun member => (first.mem_iff member).trans (second.mem_iff member).symm
  refine same.eq_of_pairwise (fun left right _ _ before after => ?_) first.ordered second.ordered
  omega

end FirstGiven

end PathSets
