import PathSets.Glob.Segments
import PathSets.Proofs.Glob.Scanning

/-!
# Texts segment by segment

A text is a segment, or a segment with a separator and a text behind it.  This file says what
cutting into segments and scanning do with either, and inverts the rules by which segments match.
-/

namespace PathSets

/-- Induction over a text, one segment at a time. -/
@[elab_as_elim]
theorem segmentInduction {motive : List Char → Prop}
    (last : ∀ segment, separator ∉ segment → motive segment)
    (cut : ∀ segment rest, separator ∉ segment → motive rest →
      motive (segment ++ separator :: rest))
    (text : List Char) : motive text := by
  induction length_eq : text.length using Nat.strongRecOn generalizing text with
  | ind length ih =>
      subst length_eq
      by_cases member : separator ∈ text
      · obtain ⟨segment, rest, rfl, outside⟩ := List.eq_append_cons_of_mem member
        exact cut segment rest outside (ih rest.length (by simp; omega) rest rfl)
      · exact last text member

theorem segments_of_not_mem {segment : List Char} (outside : separator ∉ segment) :
    segments segment = [segment] := by
  induction segment with
  | nil => rfl
  | cons char rest ih =>
      rw [List.mem_cons, not_or] at outside
      simp [segments, Ne.symm outside.1, ih outside.2]

theorem segments_append_separator {segment : List Char} (outside : separator ∉ segment)
    (rest : List Char) : segments (segment ++ separator :: rest) = segment :: segments rest := by
  induction segment with
  | nil => simp [segments]
  | cons char others ih =>
      rw [List.mem_cons, not_or] at outside
      simp [segments, Ne.symm outside.1, ih outside.2]

theorem length_segments (text : List Char) :
    (segments text).length = text.count separator + 1 := by
  induction text using segmentInduction with
  | last segment outside => simp [segments_of_not_mem outside, List.count_eq_zero.mpr outside]
  | cut segment rest outside ih =>
      simp [segments_append_separator outside, List.count_eq_zero.mpr outside, ih]

/-- What stands before the first separator of a text, and what stands behind it, is determined. -/
theorem append_separator_inj {left right first second : List Char} (leftOutside : separator ∉ left)
    (rightOutside : separator ∉ right)
    (equal : left ++ separator :: first = right ++ separator :: second) :
    left = right ∧ first = second := by
  have segments_eq := congrArg segments equal
  rw [segments_append_separator leftOutside, segments_append_separator rightOutside] at segments_eq
  obtain rfl : left = right := (List.cons.inj segments_eq).1
  exact ⟨rfl, (List.cons.inj (List.append_cancel_left equal)).2⟩

namespace SegmentMatches

variable {glob path : List Char}

theorem nil_iff : SegmentMatches [] path ↔ path = [] := by
  constructor
  · rintro ⟨⟩
    rfl
  · rintro rfl
    exact .nil

theorem star_iff :
    SegmentMatches ('*' :: glob) path ↔
      ∃ left right, path = left ++ right ∧ SegmentMatches glob right := by
  constructor
  · intro matched
    induction path with
    | nil =>
        cases matched with
        | starStop rest => exact ⟨[], [], rfl, rest⟩
    | cons char behind ih =>
        cases matched with
        | starStop rest => exact ⟨[], char :: behind, rfl, rest⟩
        | starTake _ rest =>
            obtain ⟨left, right, rfl, matchesRight⟩ := ih rest
            exact ⟨char :: left, right, rfl, matchesRight⟩
        | same _ notStar => exact absurd rfl notStar
  · rintro ⟨left, right, rfl, matchesRight⟩
    induction left with
    | nil => exact .starStop matchesRight
    | cons char rest ih => exact .starTake char ih

theorem one_iff :
    SegmentMatches ('?' :: glob) path ↔
      ∃ char rest, path = char :: rest ∧ SegmentMatches glob rest := by
  constructor
  · intro matched
    cases matched with
    | one char rest => exact ⟨char, _, rfl, rest⟩
    | same _ _ notOne => exact absurd rfl notOne
  · rintro ⟨char, rest, rfl, matchesRest⟩
    exact .one char matchesRest

theorem same_iff {char : Char} (notStar : char ≠ '*') (notOne : char ≠ '?') :
    SegmentMatches (char :: glob) path ↔
      ∃ rest, path = char :: rest ∧ SegmentMatches glob rest := by
  constructor
  · intro matched
    cases matched with
    | starStop | starTake => exact absurd rfl notStar
    | one => exact absurd rfl notOne
    | same _ _ _ rest => exact ⟨_, rfl, rest⟩
  · rintro ⟨rest, rfl, matchesRest⟩
    exact .same char notStar notOne matchesRest

end SegmentMatches

namespace SegmentwiseMatches

variable {glob path : List (List Char)}

theorem nil_iff : SegmentwiseMatches [] path ↔ path = [] := by
  constructor
  · rintro ⟨⟩
    rfl
  · rintro rfl
    exact .nil

theorem eq_nil_of_nil (matched : SegmentwiseMatches glob []) : glob = [] := by
  generalize path_eq : ([] : List (List Char)) = path at matched
  induction matched with
  | nil => rfl
  | deepStop more _ ih => exact absurd ((ih path_eq).trans path_eq.symm) more
  | deepTake | segment => cases path_eq

theorem cons_iff {first : List Char} (notDeep : first = ['*', '*'] → glob = []) :
    SegmentwiseMatches (first :: glob) path ↔
      ∃ segment rest, path = segment :: rest ∧ SegmentMatches first segment ∧
        SegmentwiseMatches glob rest := by
  constructor
  · intro matched
    cases matched with
    | deepStop more | deepTake _ more => exact absurd (notDeep rfl) more
    | segment _ here rest => exact ⟨_, _, rfl, here, rest⟩
  · rintro ⟨segment, rest, rfl, here, matchesRest⟩
    exact .segment notDeep here matchesRest

theorem deep_iff (more : glob ≠ []) :
    SegmentwiseMatches (['*', '*'] :: glob) path ↔
      SegmentwiseMatches glob path ∨
        ∃ segment rest, path = segment :: rest ∧
          SegmentwiseMatches (['*', '*'] :: glob) rest := by
  constructor
  · intro matched
    cases matched with
    | deepStop _ rest => exact Or.inl rest
    | deepTake segment _ rest => exact Or.inr ⟨segment, _, rfl, rest⟩
    | segment notDeep => exact absurd (notDeep rfl) more
  · rintro (matchesPath | ⟨segment, rest, rfl, matchesRest⟩)
    · exact .deepStop more matchesPath
    · exact .deepTake segment more matchesRest

end SegmentwiseMatches

namespace Token

theorem scan_of_not_mem {segment : List Char} (outside : separator ∉ segment) :
    scan segment = segment.map ofChar := by
  induction segment with
  | nil => rfl
  | cons char rest ih =>
      have plain : deepAt (char :: rest) 0 = false := by
        rw [Bool.eq_false_iff]
        intro begins
        obtain ⟨behind, equal⟩ := deepAt_zero_iff.mp begins
        simp [equal, separator] at outside
      rw [List.mem_cons, not_or] at outside
      rw [scan_cons plain, ih outside.2, List.map_cons]

/-- Two stars and a separator stand at the front of a text exactly if the stars are its first
segment. -/
theorem deepAt_append_separator {segment : List Char} (outside : separator ∉ segment)
    (rest : List Char) :
    deepAt (segment ++ separator :: rest) 0 = true ↔ segment = ['*', '*'] := by
  rw [deepAt_zero_iff]
  constructor
  · rintro ⟨behind, equal⟩
    have stars : separator ∉ ['*', '*'] := by decide
    exact (append_separator_inj outside stars equal).1
  · rintro rfl
    exact ⟨rest, rfl⟩

/-- A segment that does not end in two stars is scanned character by character, and so is the
separator behind it. -/
theorem scan_append_separator {segment : List Char} (outside : separator ∉ segment)
    (open_end : ¬['*', '*'] <:+ segment) (rest : List Char) :
    scan (segment ++ separator :: rest) =
      segment.map ofChar ++ .lit separator :: scan rest := by
  induction segment with
  | nil => rfl
  | cons char others ih =>
      have plain : deepAt (char :: (others ++ separator :: rest)) 0 = false := by
        rw [Bool.eq_false_iff, ← List.cons_append, Ne, deepAt_append_separator outside]
        intro equal
        exact open_end (equal ▸ List.suffix_refl _)
      have othersOpen : ¬['*', '*'] <:+ others := fun stars =>
        open_end (stars.trans (List.suffix_cons char others))
      rw [List.mem_cons, not_or] at outside
      rw [List.cons_append, scan_cons plain, ih outside.2 othersOpen]
      rfl

/-- Two stars at the end of a segment are one token with the separator behind them. -/
theorem scan_stars_separator {front : List Char} (outside : separator ∉ front)
    (rest : List Char) :
    scan (front ++ ['*', '*'] ++ separator :: rest) = front.map ofChar ++ .deep :: scan rest := by
  induction front with
  | nil => rfl
  | cons char others ih =>
      have stars : separator ∉ char :: others ++ ['*', '*'] := by
        simp only [List.mem_append, not_or]
        exact ⟨outside, by decide⟩
      have plain : deepAt (char :: (others ++ ['*', '*'] ++ separator :: rest)) 0 = false := by
        rw [Bool.eq_false_iff, ← List.cons_append, ← List.cons_append, Ne,
          deepAt_append_separator stars]
        intro equal
        simpa using congrArg List.length equal
      rw [List.mem_cons, not_or] at outside
      rw [List.cons_append, List.cons_append, scan_cons plain, ih outside.2]
      rfl

end Token
end PathSets
