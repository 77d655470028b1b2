import PathSets.Proofs.Glob.Concatenation

/-!
# One more star

A star that is written into a glob, or in place of one of its characters, takes no path away.  It
may change the tokens on both sides: it may make a star and a separator into two stars and a
separator, or come in between these.  Whatever its neighbours become, the glob still holds of a text
of what stands in front, a text without separators and a text of what stands behind.
-/

namespace PathSets
namespace Token

theorem not_mem_of_denotes_ofChar {char : Char} (notSeparator : char ≠ separator)
    {text : List Char} (denotes : (ofChar char).Denotes text) : separator ∉ text := by
  unfold ofChar at denotes
  split at denotes
  · exact denotes
  · split at denotes
    · obtain ⟨only, inside, rfl⟩ := denotes
      simpa using Ne.symm inside
    · obtain rfl : text = [char] := denotes
      simpa using Ne.symm notSeparator

/-- A star between two texts leaves room for whatever has no separator in it. -/
theorem composes_scan_star_between {left right first middle last : List Char}
    (composesFirst : Composes (scan left) first) (outside : separator ∉ middle)
    (composesLast : Composes (scan right) last) :
    Composes (scan (left ++ ['*'] ++ right)) (first ++ middle ++ last) := by
  have composesMiddle : Composes (scan ['*']) middle :=
    (composes_singleton_iff .star middle).mpr outside
  exact composes_scan_append (composes_scan_append composesFirst composesMiddle) composesLast

/-- A star that comes into two stars and a separator leaves them whole, with itself in front. -/
theorem exists_append_star_of_deepAcross {left right : List Char} (across : DeepAcross left right) :
    ∃ front back, left ++ right = front ++ spelling .deep ++ back ∧
      left ++ ['*'] ++ right = front ++ ['*'] ++ (spelling .deep ++ back) := by
  rcases (deepAcross_iff left right).mp across with
    ⟨⟨front, rfl⟩, back, rfl⟩ | ⟨⟨front, rfl⟩, back, rfl⟩
  · exact ⟨front, back, by simp [spelling], by simp [spelling]⟩
  · exact ⟨front, back, by simp [spelling], by simp [spelling]⟩

/-- Writing a star into a glob keeps the texts of the glob. -/
theorem composes_scan_insert_star {left right text : List Char}
    (composed : Composes (scan (left ++ right)) text) :
    Composes (scan (left ++ ['*'] ++ right)) text := by
  by_cases across : DeepAcross left right
  · obtain ⟨front, back, whole_eq, longer_eq⟩ := exists_append_star_of_deepAcross across
    rw [whole_eq, scan_append_deep, composes_append] at composed
    obtain ⟨first, last, rfl, composesFirst, composesLast⟩ := composed
    have behind : Composes (scan (spelling .deep ++ back)) last := composesLast
    rw [longer_eq]
    simpa using composes_scan_star_between composesFirst List.not_mem_nil behind
  · rw [scan_append across, composes_append] at composed
    obtain ⟨first, last, rfl, composesFirst, composesLast⟩ := composed
    simpa using composes_scan_star_between composesFirst List.not_mem_nil composesLast

/-- Writing a star in place of a character other than the separator keeps the texts of the glob. -/
theorem composes_scan_replace_star {left right text : List Char} {char : Char}
    (notSeparator : char ≠ separator) (composed : Composes (scan (left ++ [char] ++ right)) text) :
    Composes (scan (left ++ ['*'] ++ right)) text := by
  by_cases isStar : char = '*'
  · rwa [isStar] at composed
  · have apart : ¬DeepAcross left (char :: right) := by
      simp [deepAcross_iff, Ne.symm isStar, Ne.symm notSeparator]
    rw [List.append_assoc, List.singleton_append, scan_append apart,
      scan_cons (deepAt_eq_false_of_ne isStar right), composes_append] at composed
    obtain ⟨first, _, rfl, composesFirst, middle, last, rfl, denotes, composesLast⟩ := composed
    have outside : separator ∉ middle := not_mem_of_denotes_ofChar notSeparator denotes
    rw [← List.append_assoc]
    exact composes_scan_star_between composesFirst outside composesLast

end Token

namespace Glob

/-- Writing a star into a glob loses no path of the glob, and neither does writing it in place of a
character other than the separator. -/
theorem accepts_insert_star_and_replace_star (left right : Glob) (path : String) :
    ((left ++ right).accepts path = true → (left ++ ⟨"*"⟩ ++ right).accepts path = true) ∧
      ∀ char, char ≠ separator → (left ++ ⟨String.singleton char⟩ ++ right).accepts path = true →
        (left ++ ⟨"*"⟩ ++ right).accepts path = true := by
  simp only [accepts_iff_composes, source_append, String.toList_append]
  constructor
  · intro composed
    exact Token.composes_scan_insert_star composed
  · intro char notSeparator composed
    rw [String.toList_singleton] at composed
    exact Token.composes_scan_replace_star notSeparator composed

/-- A star that comes between two stars and a separator, and a star that makes a star and a
separator into two stars and a separator. -/
theorem accepts_star_inside_deep_and_beside_star :
    ((⟨"a*"⟩ ++ ⟨"*/b"⟩ : Glob).accepts "ab" = true ∧
        (⟨"a*"⟩ ++ ⟨"*"⟩ ++ ⟨"*/b"⟩ : Glob).accepts "ab" = true) ∧
      'c' ≠ separator ∧ (⟨"*"⟩ ++ ⟨String.singleton 'c'⟩ ++ ⟨"/b"⟩ : Glob).accepts "xc/b" = true ∧
        (⟨"*"⟩ ++ ⟨"*"⟩ ++ ⟨"/b"⟩ : Glob).accepts "xc/b" = true := by
  obtain ⟨inserted, -⟩ := accepts_insert_star_and_replace_star ⟨"a*"⟩ ⟨"*/b"⟩ "ab"
  obtain ⟨-, replaced⟩ := accepts_insert_star_and_replace_star ⟨"*"⟩ ⟨"/b"⟩ "xc/b"
  have deep : (⟨"a*"⟩ ++ ⟨"*/b"⟩ : Glob).accepts "ab" = true := by decide
  have literal : (⟨"*"⟩ ++ ⟨String.singleton 'c'⟩ ++ ⟨"/b"⟩ : Glob).accepts "xc/b" = true := by
    decide
  have notSeparator : 'c' ≠ separator := by decide
  exact ⟨⟨deep, inserted deep⟩, notSeparator, literal, replaced 'c' notSeparator literal⟩

end Glob
end PathSets
