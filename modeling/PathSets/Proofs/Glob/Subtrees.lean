import PathSets.Proofs.Glob.Alignment
import PathSets.Proofs.Glob.Concatenation

/-!
# Paths below paths

Two stars and a separator in front of a glob let its paths begin at any depth.  Behind a glob, a
separator and a star stand for what lies directly below its paths, and two stars and a separator in
between for what lies anywhere below them.  This needs the separator to be a token of its own, so
the glob must not end in two stars.
-/

namespace PathSets
namespace Token

/-! ## Texts that are cut at a separator -/

/-- A separator between tokens cuts a text in two. -/
theorem composes_append_separator_iff (first second : List Token) (text : List Char) :
    Composes (first ++ .lit separator :: second) text ↔
      ∃ front rest, text = front ++ separator :: rest ∧ Composes first front ∧
        Composes second rest := by
  simp only [composes_append, composes_cons, Denotes]
  constructor
  · rintro ⟨front, _, rfl, composesFirst, _, rest, rfl, rfl, composesSecond⟩
    exact ⟨front, rest, rfl, composesFirst, composesSecond⟩
  · rintro ⟨front, rest, rfl, composesFirst, composesSecond⟩
    exact ⟨front, separator :: rest, rfl, composesFirst, [separator], rest, rfl, rfl,
      composesSecond⟩

/-- Two stars and a separator stand for nothing, or for everything up to some separator. -/
theorem composes_deep_iff_exists (tokens : List Token) (text : List Char) :
    Composes (.deep :: tokens) text ↔
      Composes tokens text ∨
        ∃ front rest, text = front ++ separator :: rest ∧ Composes tokens rest := by
  constructor
  · rintro ⟨_, rest, rfl, rfl | ⟨front, rfl⟩, composed⟩
    · exact Or.inl composed
    · exact Or.inr ⟨front, rest, List.append_assoc .., composed⟩
  · rintro (composed | ⟨front, rest, rfl, composed⟩)
    · exact ⟨[], text, rfl, Or.inl rfl, composed⟩
    · have denotes : Denotes .deep (front ++ [separator]) := Or.inr ⟨front, rfl⟩
      exact ⟨front ++ [separator], rest, (List.append_cons ..), denotes, composed⟩

/-- Two stars, a separator and a star stand for every text: the star takes the last segment. -/
theorem composes_deep_star (text : List Char) : Composes [.deep, .star] text := by
  induction text using segmentInduction with
  | last segment outside =>
      have composed : Composes [.star] segment := (composes_singleton_iff .star segment).mpr outside
      exact (composes_deep_iff [.star] segment).mpr (Or.inl composed)
  | cut segment rest outside ih =>
      exact (composes_deep_iff [.star] _).mpr (Or.inr ⟨segment, rest, outside, rfl, ih⟩)

/-! ## Separators and literals in globs -/

/-- A separator behind a text that does not end in two stars is a token of its own. -/
theorem scan_append_separator_cons {front : List Char} (openEnd : ¬['*', '*'] <:+ front)
    (rest : List Char) :
    scan (front ++ separator :: rest) = scan front ++ .lit separator :: scan rest := by
  have apart : ¬DeepAcross front (separator :: rest) := by
    simp [deepAcross_iff, openEnd, separator]
  rw [scan_append apart]
  rfl

theorem scan_of_literal {text : List Char} (noStar : '*' ∉ text) (noOne : '?' ∉ text) :
    scan text = text.map .lit := by
  induction text with
  | nil => rfl
  | cons char rest ih =>
      rw [List.mem_cons, not_or] at noStar noOne
      have plain : deepAt (char :: rest) 0 = false :=
        deepAt_eq_false_of_ne (Ne.symm noStar.1) rest
      have literal : ofChar char = .lit char := by
        simp [ofChar, Ne.symm noStar.1, Ne.symm noOne.1]
      rw [scan_cons plain, literal, ih noStar.2 noOne.2, List.map_cons]

theorem composes_map_lit_iff (chars text : List Char) :
    Composes (chars.map .lit) text ↔ text = chars := by
  induction chars generalizing text with
  | nil => rfl
  | cons char rest ih => simp [Denotes, ih]

end Token

namespace Glob

/-- A path that is cut at a separator, in terms of its characters. -/
theorem exists_cut_iff (path : String) (first second : List Char → Prop) :
    (∃ front rest : String, path = front ++ "/" ++ rest ∧ first front.toList ∧
        second rest.toList) ↔
      ∃ front rest : List Char, path.toList = front ++ separator :: rest ∧ first front ∧
        second rest := by
  constructor
  · rintro ⟨front, rest, rfl, holdsFirst, holdsSecond⟩
    refine ⟨front.toList, rest.toList, ?_, holdsFirst, holdsSecond⟩
    simp
  · rintro ⟨front, rest, path_eq, holdsFirst, holdsSecond⟩
    refine ⟨String.ofList front, String.ofList rest, ?_, by simpa using holdsFirst,
      by simpa using holdsSecond⟩
    apply String.ext
    simp [path_eq]

/-- Two stars and a separator in front of a glob: its paths, and its paths below anything. -/
theorem accepts_deep_append_iff (glob : Glob) (path : String) :
    (⟨"**/"⟩ ++ glob : Glob).accepts path = true ↔
      glob.accepts path = true ∨
        ∃ front rest, path = front ++ "/" ++ rest ∧ glob.accepts rest = true := by
  have scanned : Token.scan ("**/".toList ++ glob.source.toList) =
      .deep :: Token.scan glob.source.toList := rfl
  have cut := exists_cut_iff path (fun _ => True) (Token.Composes (Token.scan glob.source.toList))
  simp only [true_and] at cut
  simp only [accepts_iff_composes, source_append, String.toList_append, scanned, cut]
  exact Token.composes_deep_iff_exists _ _

/-- A separator between two globs, of which the first does not end in two stars: a path of the one,
a separator, and a path of the other. -/
theorem accepts_append_separator_append_iff {left : Glob}
    (openEnd : ¬"**".toList <:+ left.source.toList) (right : Glob) (path : String) :
    (left ++ ⟨"/"⟩ ++ right).accepts path = true ↔
      ∃ front rest, path = front ++ "/" ++ rest ∧ left.accepts front = true ∧
        right.accepts rest = true := by
  have scanned : Token.scan (left.source.toList ++ "/".toList ++ right.source.toList) =
      Token.scan left.source.toList ++ .lit separator :: Token.scan right.source.toList := by
    rw [List.append_assoc]
    exact Token.scan_append_separator_cons openEnd right.source.toList
  simp only [accepts_iff_composes, source_append, String.toList_append, scanned,
    Token.composes_append_separator_iff, exists_cut_iff path (Token.Composes _) (Token.Composes _)]

theorem accepts_star_iff (path : String) :
    (⟨"*"⟩ : Glob).accepts path = true ↔ separator ∉ path.toList := by
  rw [accepts_iff_composes]
  exact Token.composes_singleton_iff .star path.toList

theorem accepts_deep_star (path : String) : (⟨"**/*"⟩ : Glob).accepts path = true := by
  rw [accepts_iff_composes]
  exact Token.composes_deep_star path.toList

/-- A glob without wildcards holds of its source alone. -/
theorem accepts_literal_iff {glob : Glob} (noStar : '*' ∉ glob.source.toList)
    (noOne : '?' ∉ glob.source.toList) (path : String) :
    glob.accepts path = true ↔ path = glob.source := by
  rw [accepts_iff_composes, Token.scan_of_literal noStar noOne, Token.composes_map_lit_iff,
    String.toList_inj]

section Below

variable {glob : Glob} (openEnd : ¬"**".toList <:+ glob.source.toList)
include openEnd

/-- What lies anywhere below the paths of a glob. -/
theorem accepts_append_deep_star_iff (path : String) :
    (glob ++ ⟨"/**/*"⟩).accepts path = true ↔
      ∃ front rest, path = front ++ "/" ++ rest ∧ glob.accepts front = true := by
  have split : glob ++ ⟨"/**/*"⟩ = glob ++ ⟨"/"⟩ ++ ⟨"**/*"⟩ :=
    (Glob.append_assoc glob ⟨"/"⟩ ⟨"**/*"⟩).symm
  rw [split, accepts_append_separator_append_iff openEnd]
  simp only [accepts_deep_star, and_true]

/-- What lies directly below the paths of a glob. -/
theorem accepts_append_star_iff (path : String) :
    (glob ++ ⟨"/*"⟩).accepts path = true ↔
      ∃ front rest, path = front ++ "/" ++ rest ∧ glob.accepts front = true ∧
        separator ∉ rest.toList := by
  have split : glob ++ ⟨"/*"⟩ = glob ++ ⟨"/"⟩ ++ ⟨"*"⟩ :=
    (Glob.append_assoc glob ⟨"/"⟩ ⟨"*"⟩).symm
  rw [split, accepts_append_separator_append_iff openEnd]
  simp only [accepts_star_iff]

end Below

/-- What lies anywhere below a path without wildcards is what begins with it and a separator. -/
theorem accepts_literal_append_deep_star_iff {glob : Glob} (noStar : '*' ∉ glob.source.toList)
    (noOne : '?' ∉ glob.source.toList) (path : String) :
    (glob ++ ⟨"/**/*"⟩).accepts path = true ↔ (glob.source ++ "/").toList <+: path.toList := by
  have openEnd : ¬"**".toList <:+ glob.source.toList := fun stars =>
    noStar (stars.subset List.mem_cons_self)
  simp only [accepts_append_deep_star_iff openEnd, accepts_literal_iff noStar noOne]
  constructor
  · rintro ⟨_, rest, rfl, rfl⟩
    exact ⟨rest.toList, (String.toList_append).symm⟩
  · rintro ⟨rest, path_eq⟩
    refine ⟨glob.source, String.ofList rest, ?_, rfl⟩
    apply String.ext
    rw [String.toList_append, String.toList_ofList, path_eq]

/-- A glob behind two stars and a separator holds of its paths at any depth.  If it does not end in
two stars, the glob with a separator, two stars, a separator and a star behind it holds of what lies
anywhere below its paths, and with a separator and a star behind it, of what lies directly below
them.  In particular, anywhere below a path without wildcards lies what begins with it and a
separator. -/
theorem accepts_at_depth_and_below (glob : Glob) (path : String) :
    ((⟨"**/"⟩ ++ glob : Glob).accepts path = true ↔
        glob.accepts path = true ∨
          ∃ front rest, path = front ++ "/" ++ rest ∧ glob.accepts rest = true) ∧
      (¬"**".toList <:+ glob.source.toList →
        ((glob ++ ⟨"/**/*"⟩).accepts path = true ↔
          ∃ front rest, path = front ++ "/" ++ rest ∧ glob.accepts front = true) ∧
        ((glob ++ ⟨"/*"⟩).accepts path = true ↔
          ∃ front rest, path = front ++ "/" ++ rest ∧ glob.accepts front = true ∧
            separator ∉ rest.toList)) ∧
      ('*' ∉ glob.source.toList → '?' ∉ glob.source.toList →
        ((glob ++ ⟨"/**/*"⟩).accepts path = true ↔
          (glob.source ++ "/").toList <+: path.toList)) := by
  refine ⟨glob.accepts_deep_append_iff path, ?_, ?_⟩
  · intro openEnd
    exact ⟨accepts_append_deep_star_iff openEnd path, accepts_append_star_iff openEnd path⟩
  · intro noStar noOne
    exact accepts_literal_append_deep_star_iff noStar noOne path

/-- Behind two stars the separator is a part of them, so nothing needs to lie below. -/
example : (⟨"a**"⟩ ++ ⟨"/*"⟩ : Glob).accepts "a" = true := by
  decide

/-- A glob with a star, with empty segments below one of its paths, and a path without wildcards. -/
theorem accepts_below_star_and_below_literal :
    ¬"**".toList <:+ "lib*".toList ∧
      (∃ front rest, "libs//a" = front ++ "/" ++ rest ∧
        (⟨"lib*"⟩ : Glob).accepts front = true) ∧
      (∃ front rest, "libs/a" = front ++ "/" ++ rest ∧ (⟨"lib*"⟩ : Glob).accepts front = true ∧
        separator ∉ rest.toList) ∧
      '*' ∉ "src/lib".toList ∧ '?' ∉ "src/lib".toList ∧
        ((⟨"src/lib"⟩ ++ ⟨"/**/*"⟩ : Glob).accepts "src/lib//a\n" = true ↔
          ("src/lib" ++ "/").toList <+: "src/lib//a\n".toList) := by
  have openEnd : ¬"**".toList <:+ "lib*".toList := by decide
  have noStar : '*' ∉ "src/lib".toList := by decide
  have noOne : '?' ∉ "src/lib".toList := by decide
  obtain ⟨-, anywhere, -⟩ := accepts_at_depth_and_below ⟨"lib*"⟩ "libs//a"
  obtain ⟨-, directly, -⟩ := accepts_at_depth_and_below ⟨"lib*"⟩ "libs/a"
  obtain ⟨-, -, literal⟩ := accepts_at_depth_and_below ⟨"src/lib"⟩ "src/lib//a\n"
  refine ⟨openEnd, ?_, ?_, noStar, noOne, literal noStar noOne⟩
  · exact (anywhere openEnd).1.mp (by decide)
  · exact (directly openEnd).2.mp (by decide)

end Glob
end PathSets
