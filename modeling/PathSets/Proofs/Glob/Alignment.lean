import PathSets.Proofs.Glob.Language
import PathSets.Proofs.Glob.Segments

/-!
# Aligned globs

A glob can be read segment by segment exactly if every two stars before a separator fill a whole
segment.  One direction compares the two readings cut by cut.  For the other, `Token.shortest`
spells the path of a glob with the fewest separators: each two stars before a separator save one
there, but segment by segment they save one only where they are a segment of their own.
-/

namespace PathSets

/-- Whether every two stars before a separator stand at the start of a text or directly after
another separator. -/
def AlignedText (text : List Char) : Prop :=
  ∀ before after, text = before ++ Token.spelling .deep ++ after →
    before = [] ∨ ∃ front, before = front ++ [separator]

theorem alignedText_of_not_mem {segment : List Char} (outside : separator ∉ segment) :
    AlignedText segment := by
  intro before after equal
  exact absurd (by simp [equal, Token.spelling]) outside

theorem eq_nil_or_append_separator_of_append {segment before front : List Char}
    (equal : segment ++ separator :: before = front ++ [separator]) :
    before = [] ∨ ∃ front, before = front ++ [separator] := by
  rcases List.eq_nil_or_concat before with rfl | ⟨init, final, rfl⟩
  · exact Or.inl rfl
  · rw [List.concat_eq_append, ← List.cons_append, ← List.append_assoc] at equal
    obtain ⟨_, final_eq⟩ := List.append_inj' equal rfl
    exact Or.inr ⟨init, by simpa using final_eq⟩

/-- A text is aligned if its first segment does not end in two stars, unless it consists of them,
and what stands behind is aligned. -/
theorem alignedText_append_separator {segment : List Char} (outside : separator ∉ segment)
    (rest : List Char) :
    AlignedText (segment ++ separator :: rest) ↔
      (['*', '*'] <:+ segment → segment = ['*', '*']) ∧ AlignedText rest := by
  constructor
  · intro aligned
    constructor
    · rintro ⟨front, rfl⟩
      rcases aligned front rest (by simp [Token.spelling]) with rfl | ⟨init, rfl⟩
      · rfl
      · simp at outside
    · rintro before after rfl
      rcases aligned (segment ++ separator :: before) after (by simp) with none | ⟨front, equal⟩
      · simp at none
      · exact eq_nil_or_append_separator_of_append equal
  · rintro ⟨whole, alignedRest⟩ before after equal
    rw [List.append_assoc] at equal
    rcases List.append_eq_append_iff.mp equal with ⟨middle, rfl, behind⟩ | ⟨stars, rfl, behind⟩
    · cases middle with
      | nil => simp [Token.spelling, separator] at behind
      | cons char inner =>
          obtain ⟨rfl, rfl⟩ := List.cons.inj behind
          rcases alignedRest inner after (List.append_assoc ..).symm with rfl | ⟨front, rfl⟩
          · exact Or.inr ⟨segment, rfl⟩
          · exact Or.inr ⟨segment ++ separator :: front, by simp⟩
    · have starsOutside : separator ∉ stars := fun member =>
        outside (List.mem_append_right before member)
      have stars_eq : ['*', '*'] = stars :=
        (append_separator_inj (by decide) starsOutside behind).1
      have whole_eq := whole ⟨before, by rw [stars_eq]⟩
      rw [← stars_eq] at whole_eq
      exact Or.inl (List.append_cancel_right whole_eq)

namespace Token

/-! ## Agreement on aligned globs -/

/-- A segment without separators holds of the same texts token by token, except that it never
holds of a text with a separator. -/
theorem composes_map_ofChar_iff {segment : List Char} (outside : separator ∉ segment)
    (text : List Char) :
    Composes (segment.map ofChar) text ↔ separator ∉ text ∧ SegmentMatches segment text := by
  induction segment generalizing text with
  | nil => simp +contextual [SegmentMatches.nil_iff]
  | cons char rest ih =>
      rw [List.mem_cons, not_or] at outside
      simp only [List.map_cons, composes_cons, ih outside.2]
      by_cases isStar : char = '*'
      · subst isStar
        rw [SegmentMatches.star_iff]
        simp only [ofChar, if_true, Denotes]
        constructor
        · rintro ⟨left, right, rfl, leftOutside, rightOutside, matchesRight⟩
          exact ⟨by simp [leftOutside, rightOutside], left, right, rfl, matchesRight⟩
        · rintro ⟨textOutside, left, right, rfl, matchesRight⟩
          rw [List.mem_append, not_or] at textOutside
          exact ⟨left, right, rfl, textOutside.1, textOutside.2, matchesRight⟩
      · by_cases isOne : char = '?'
        · subst isOne
          rw [SegmentMatches.one_iff]
          simp only [ofChar, isStar, if_true, if_false, Denotes]
          constructor
          · rintro ⟨_, right, rfl, ⟨first, inside, rfl⟩, rightOutside, matchesRight⟩
            exact ⟨by simp [Ne.symm inside, rightOutside], first, right, rfl, matchesRight⟩
          · rintro ⟨textOutside, first, right, rfl, matchesRight⟩
            rw [List.mem_cons, not_or] at textOutside
            exact ⟨[first], right, rfl, ⟨first, Ne.symm textOutside.1, rfl⟩, textOutside.2,
              matchesRight⟩
        · rw [SegmentMatches.same_iff isStar isOne]
          simp only [ofChar, isStar, isOne, if_false, Denotes]
          constructor
          · rintro ⟨_, right, rfl, rfl, rightOutside, matchesRight⟩
            exact ⟨by simp [outside.1, rightOutside], right, rfl, matchesRight⟩
          · rintro ⟨textOutside, right, rfl, matchesRight⟩
            rw [List.mem_cons, not_or] at textOutside
            exact ⟨[char], right, rfl, rfl, textOutside.2, matchesRight⟩

theorem composes_separator_iff {segment : List Char} (outside : separator ∉ segment)
    (tokens : List Token) (text : List Char) :
    Composes (segment.map ofChar ++ .lit separator :: tokens) text ↔
      ∃ left right, text = left ++ separator :: right ∧ separator ∉ left ∧
        SegmentMatches segment left ∧ Composes tokens right := by
  simp only [composes_append, composes_map_ofChar_iff outside, composes_cons, Denotes]
  constructor
  · rintro ⟨left, _, rfl, ⟨leftOutside, matchesLeft⟩, _, right, rfl, rfl, composed⟩
    exact ⟨left, right, rfl, leftOutside, matchesLeft, composed⟩
  · rintro ⟨left, right, rfl, leftOutside, matchesLeft, composed⟩
    exact ⟨left, separator :: right, rfl, ⟨leftOutside, matchesLeft⟩, [separator], right, rfl, rfl,
      composed⟩

/-- Two stars and a separator stand for nothing, or for one segment and for what they stand for
once more. -/
theorem composes_deep_iff (tokens : List Token) (text : List Char) :
    Composes (.deep :: tokens) text ↔
      Composes tokens text ∨
        ∃ segment rest, separator ∉ segment ∧ text = segment ++ separator :: rest ∧
          Composes (.deep :: tokens) rest := by
  constructor
  · rintro ⟨_, right, rfl, rfl | ⟨front, rfl⟩, composed⟩
    · exact Or.inl composed
    · have member : separator ∈ front ++ [separator] := by simp
      obtain ⟨segment, behind, front_eq, outside⟩ := List.eq_append_cons_of_mem member
      refine Or.inr ⟨segment, behind ++ right, outside, by rw [front_eq]; simp, behind, right, rfl,
        ?_, composed⟩
      exact eq_nil_or_append_separator_of_append front_eq.symm
  · rintro (composed | ⟨segment, _, outside, rfl, left, right, rfl, denotes, composed⟩)
    · exact ⟨[], text, rfl, Or.inl rfl, composed⟩
    · refine ⟨segment ++ separator :: left, right, by simp, Or.inr ?_, composed⟩
      rcases denotes with rfl | ⟨front, rfl⟩
      · exact ⟨segment, rfl⟩
      · exact ⟨segment ++ separator :: front, by simp⟩

/-- The readings agree behind two stars and a separator if they agree on what follows these. -/
theorem composes_deep_iff_segmentwise {tokens : List Token} {glob : List (List Char)}
    (more : glob ≠ [])
    (agree : ∀ text, Composes tokens text ↔ SegmentwiseMatches glob (segments text))
    (text : List Char) :
    Composes (.deep :: tokens) text ↔
      SegmentwiseMatches (['*', '*'] :: glob) (segments text) := by
  induction text using segmentInduction with
  | last segment outside =>
      rw [composes_deep_iff, agree, segments_of_not_mem outside, SegmentwiseMatches.deep_iff more]
      constructor
      · rintro (matched | ⟨_, _, _, rfl, _⟩)
        · exact Or.inl matched
        · simp at outside
      · rintro (matched | ⟨_, _, equal, matched⟩)
        · exact Or.inl matched
        · rw [← (List.cons.inj equal).2] at matched
          exact absurd matched.eq_nil_of_nil (by simp)
  | cut segment rest outside ih =>
      rw [composes_deep_iff, agree, segments_append_separator outside,
        SegmentwiseMatches.deep_iff more]
      apply or_congr_right
      constructor
      · rintro ⟨_, behind, behindOutside, equal, composed⟩
        obtain ⟨rfl, rfl⟩ := append_separator_inj outside behindOutside equal
        exact ⟨segment, segments rest, rfl, ih.mp composed⟩
      · rintro ⟨_, _, equal, matched⟩
        rw [← (List.cons.inj equal).2] at matched
        exact ⟨segment, rest, outside, rfl, ih.mpr matched⟩

/-- The readings agree behind a separator if they agree on what follows it. -/
theorem composes_separator_iff_segmentwise {segment : List Char} (outside : separator ∉ segment)
    (notDeep : segment ≠ ['*', '*']) {tokens : List Token} {glob : List (List Char)}
    (more : glob ≠ [])
    (agree : ∀ text, Composes tokens text ↔ SegmentwiseMatches glob (segments text))
    (text : List Char) :
    Composes (segment.map ofChar ++ .lit separator :: tokens) text ↔
      SegmentwiseMatches (segment :: glob) (segments text) := by
  rw [composes_separator_iff outside, SegmentwiseMatches.cons_iff (absurd · notDeep)]
  constructor
  · rintro ⟨left, right, rfl, leftOutside, matchesLeft, composed⟩
    exact ⟨left, segments right, segments_append_separator leftOutside right, matchesLeft,
      (agree right).mp composed⟩
  · rintro ⟨left, behind, equal, matchesLeft, matched⟩
    induction text using segmentInduction with
    | last only onlyOutside =>
        rw [segments_of_not_mem onlyOutside] at equal
        rw [← (List.cons.inj equal).2] at matched
        exact absurd matched.eq_nil_of_nil more
    | cut first rest firstOutside =>
        rw [segments_append_separator firstOutside] at equal
        obtain ⟨rfl, rfl⟩ := List.cons.inj equal
        exact ⟨first, rest, rfl, firstOutside, matchesLeft, (agree rest).mpr matched⟩

/-- On an aligned glob the reading by tokens and the reading by segments agree. -/
theorem composes_scan_iff_segmentwise {glob : List Char} (aligned : AlignedText glob)
    (text : List Char) :
    Composes (scan glob) text ↔ SegmentwiseMatches (segments glob) (segments text) := by
  induction glob using segmentInduction generalizing text with
  | last segment outside =>
      rw [scan_of_not_mem outside, composes_map_ofChar_iff outside, segments_of_not_mem outside,
        SegmentwiseMatches.cons_iff fun _ => rfl]
      simp only [SegmentwiseMatches.nil_iff]
      constructor
      · rintro ⟨textOutside, matched⟩
        exact ⟨text, [], segments_of_not_mem textOutside, matched, rfl⟩
      · rintro ⟨only, _, equal, matched, rfl⟩
        induction text using segmentInduction with
        | last whole wholeOutside =>
            rw [segments_of_not_mem wholeOutside] at equal
            exact ⟨wholeOutside, (List.cons.inj equal).1 ▸ matched⟩
        | cut first rest firstOutside =>
            rw [segments_append_separator firstOutside] at equal
            exact absurd (List.cons.inj equal).2 (segments_ne_nil rest)
  | cut segment rest outside ih =>
      obtain ⟨whole, alignedRest⟩ := (alignedText_append_separator outside rest).mp aligned
      have agree := ih alignedRest
      rw [segments_append_separator outside]
      by_cases stars : ['*', '*'] <:+ segment
      · rw [whole stars]
        exact composes_deep_iff_segmentwise (segments_ne_nil rest) agree text
      · have notDeep : segment ≠ ['*', '*'] := fun equal => stars (equal ▸ List.suffix_refl _)
        rw [scan_append_separator outside stars]
        exact composes_separator_iff_segmentwise outside notDeep (segments_ne_nil rest) agree text

/-! ## Disagreement on all other globs -/

/-- A text of a token that is as short as can be. -/
def shortest : Token → List Char
  | .deep | .star => []
  | .one => ['a']
  | .lit char => [char]

theorem denotes_shortest (token : Token) : token.Denotes token.shortest := by
  cases token <;> simp [Denotes, shortest, separator]

theorem composes_shortest (tokens : List Token) : Composes tokens (tokens.flatMap shortest) :=
  composes_flatMap fun token _ => token.denotes_shortest

theorem count_shortest_map_ofChar {segment : List Char} (outside : separator ∉ segment) :
    ((segment.map ofChar).flatMap shortest).count separator = 0 :=
  List.count_eq_zero.mpr
    ((composes_map_ofChar_iff outside _).mp (composes_shortest (segment.map ofChar))).1

end Token

/-- The number of segments of a glob that hold of one path segment each. -/
def solidSegments : List (List Char) → Nat
  | [] => 0
  | first :: rest => (if first = ['*', '*'] ∧ rest ≠ [] then 0 else 1) + solidSegments rest

theorem solidSegments_le_length {glob path : List (List Char)}
    (matched : SegmentwiseMatches glob path) : solidSegments glob ≤ path.length := by
  induction matched with
  | nil => exact Nat.le_refl 0
  | deepStop more _ ih => simpa [solidSegments, more] using ih
  | deepTake _ _ _ ih => exact Nat.le_succ_of_le ih
  | segment _ _ _ ih =>
      rw [solidSegments, List.length_cons]
      split <;> omega

/-- The shortest path of a glob has no more separators than its solid segments need, and fewer if
the glob is not aligned. -/
theorem count_shortest_lt_solidSegments (glob : List Char) :
    ((Token.scan glob).flatMap Token.shortest).count separator < solidSegments (segments glob) ∧
      (solidSegments (segments glob) ≤
        ((Token.scan glob).flatMap Token.shortest).count separator + 1 → AlignedText glob) := by
  induction glob using segmentInduction with
  | last segment outside =>
      rw [Token.scan_of_not_mem outside, Token.count_shortest_map_ofChar outside,
        segments_of_not_mem outside]
      exact ⟨by simp [solidSegments], fun _ => alignedText_of_not_mem outside⟩
  | cut segment rest outside ih =>
      obtain ⟨bound, tight⟩ := ih
      have more := segments_ne_nil rest
      rw [segments_append_separator outside, alignedText_append_separator outside]
      by_cases stars : ['*', '*'] <:+ segment
      · obtain ⟨front, rfl⟩ := stars
        have frontOutside : separator ∉ front := fun member =>
          outside (List.mem_append_left _ member)
        simp only [Token.scan_stars_separator frontOutside, List.flatMap_append, List.flatMap_cons,
          Token.shortest, List.nil_append, List.count_append,
          Token.count_shortest_map_ofChar frontOutside, Nat.zero_add, solidSegments]
        by_cases whole : front = []
        · subst whole
          simpa [more] using ⟨bound, tight⟩
        · have solid : front ++ ['*', '*'] ≠ ['*', '*'] := fun equal =>
            whole (List.append_cancel_right equal)
          simp only [solid, false_and, if_false]
          constructor
          · omega
          · intro enough
            omega
      · have solid : segment ≠ ['*', '*'] := fun equal => stars (equal ▸ List.suffix_refl _)
        simp only [Token.scan_append_separator outside stars, List.flatMap_append,
          List.flatMap_cons, Token.shortest, List.count_append,
          Token.count_shortest_map_ofChar outside, List.count_singleton_self, Nat.zero_add,
          solidSegments, solid, false_and, if_false]
        constructor
        · omega
        · intro enough
          exact ⟨fun ends => absurd ends stars, tight (by omega)⟩

/-- Reading a glob segment by segment gives the paths that it holds of exactly if the glob is
aligned. -/
theorem Glob.forall_accepts_iff_segmentLanguage_iff_aligned (glob : Glob) :
    (∀ path : String, glob.accepts path = true ↔ glob.SegmentLanguage path) ↔ glob.Aligned := by
  constructor
  · intro agree
    have composed := Token.composes_shortest glob.tokens
    have accepted : glob.accepts (String.ofList (glob.tokens.flatMap Token.shortest)) = true := by
      rw [accepts_iff_mem, mem_iff_composes, String.toList_ofList]
      exact composed
    have matched := (agree _).mp accepted
    rw [SegmentLanguage, String.toList_ofList] at matched
    have enough := solidSegments_le_length matched
    rw [length_segments] at enough
    exact (count_shortest_lt_solidSegments glob.source.toList).2 enough
  · intro aligned path
    rw [accepts_iff_mem, mem_iff_composes]
    exact Token.composes_scan_iff_segmentwise aligned path.toList

end PathSets
