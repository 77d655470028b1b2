import PathSets.Glob.Basic

/-!
# Globs segment by segment

The other way to read a glob: glob and path are both cut at their separators, and segments are
compared one by one.  A segment of two stars that is not the last one stands for any number of
path segments; in every other segment a star stands for any run of characters and a question mark
for one character.  This reading and the reading by tokens are the same for globs in which every
two stars before a separator fill a whole segment.
-/

namespace PathSets

/-- The segments of a text. -/
def segments : List Char → List (List Char)
  | [] => [[]]
  | char :: rest =>
      if char = separator then [] :: segments rest
      else (segments rest).modifyHead (char :: ·)

theorem segments_ne_nil (text : List Char) : segments text ≠ [] := by
  induction text with
  | nil => simp [segments]
  | cons char rest ih =>
      by_cases cut : char = separator
      · simp [segments, cut]
      · simpa [segments, cut] using ih

/-- Whether a segment of a glob holds of one segment of a path. -/
inductive SegmentMatches : List Char → List Char → Prop
  | nil : SegmentMatches [] []
  | starStop {glob path : List Char} (rest : SegmentMatches glob path) :
      SegmentMatches ('*' :: glob) path
  | starTake {glob path : List Char} (char : Char) (rest : SegmentMatches ('*' :: glob) path) :
      SegmentMatches ('*' :: glob) (char :: path)
  | one {glob path : List Char} (char : Char) (rest : SegmentMatches glob path) :
      SegmentMatches ('?' :: glob) (char :: path)
  | same {glob path : List Char} (char : Char) (notStar : char ≠ '*') (notOne : char ≠ '?')
      (rest : SegmentMatches glob path) : SegmentMatches (char :: glob) (char :: path)

/-- Whether the segments of a glob hold of the segments of a path. -/
inductive SegmentwiseMatches : List (List Char) → List (List Char) → Prop
  | nil : SegmentwiseMatches [] []
  | deepStop {glob path : List (List Char)} (more : glob ≠ [])
      (rest : SegmentwiseMatches glob path) : SegmentwiseMatches (['*', '*'] :: glob) path
  | deepTake {glob path : List (List Char)} (segment : List Char) (more : glob ≠ [])
      (rest : SegmentwiseMatches (['*', '*'] :: glob) path) :
      SegmentwiseMatches (['*', '*'] :: glob) (segment :: path)
  | segment {first : List Char} {glob : List (List Char)} {segment : List Char}
      {path : List (List Char)} (notDeep : first = ['*', '*'] → glob = [])
      (here : SegmentMatches first segment) (rest : SegmentwiseMatches glob path) :
      SegmentwiseMatches (first :: glob) (segment :: path)

namespace Glob

/-- The paths of a glob by the reading segment by segment. -/
def SegmentLanguage (glob : Glob) (path : String) : Prop :=
  SegmentwiseMatches (segments glob.source.toList) (segments path.toList)

/-- Whether every two stars before a separator stand at the start of the glob or directly after
another separator. -/
def Aligned (glob : Glob) : Prop :=
  ∀ before after : List Char, glob.source.toList = before ++ Token.spelling .deep ++ after →
    before = [] ∨ ∃ front, before = front ++ [separator]

end Glob
end PathSets
