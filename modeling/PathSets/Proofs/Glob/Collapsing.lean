import PathSets.Proofs.Glob.Concatenation
import PathSets.Proofs.Glob.Segments

/-!
# Collapsing runs of stars

A token whose texts can be put together says no more in several copies than in one, and both a star
and two stars before a separator are such tokens.  So a run of stars can be shortened once it is
known which of its stars belong to the separator behind it.
-/

namespace PathSets

/-- Collapse the runs of stars of a text that follows `stars` stars. -/
def collapseAfter (stars : Nat) : List Char → List Char
  | [] => List.replicate (min stars 1) '*'
  | char :: rest =>
      if char = '*' then collapseAfter (stars + 1) rest
      else if char = separator then
        List.replicate (min stars 3) '*' ++ separator :: collapseAfter 0 rest
      else List.replicate (min stars 1) '*' ++ char :: collapseAfter 0 rest

/-- The glob with every run of stars collapsed. -/
def Glob.collapse (glob : Glob) : Glob :=
  ⟨String.ofList (collapseAfter 0 glob.source.toList)⟩

/-! ## What collapsing does to a text -/

theorem collapseAfter_star (stars : Nat) (rest : List Char) :
    collapseAfter stars ('*' :: rest) = collapseAfter (stars + 1) rest := rfl

/-- Where a run of stars ends, the character behind it decides how many of them are kept. -/
theorem collapseAfter_cons (stars : Nat) {char : Char} (notStar : char ≠ '*') (rest : List Char) :
    collapseAfter stars (char :: rest) =
      List.replicate (min stars (if char = separator then 3 else 1)) '*' ++
        char :: collapseAfter 0 rest := by
  rw [collapseAfter, if_neg notStar]
  by_cases isSeparator : char = separator
  · rw [if_pos isSeparator, if_pos isSeparator, isSeparator]
  · rw [if_neg isSeparator, if_neg isSeparator]

theorem collapseAfter_zero_cons {char : Char} (notStar : char ≠ '*') (rest : List Char) :
    collapseAfter 0 (char :: rest) = char :: collapseAfter 0 rest := by
  rw [collapseAfter_cons 0 notStar, Nat.zero_min]
  rfl

theorem collapseAfter_replicate_append (stars count : Nat) (rest : List Char) :
    collapseAfter stars (List.replicate count '*' ++ rest) =
      collapseAfter (stars + count) rest := by
  induction count generalizing stars with
  | zero => rfl
  | succ count ih =>
      rw [List.replicate_succ, List.cons_append, collapseAfter_star, ih, Nat.add_assoc,
        Nat.add_comm 1]

/-- A run of stars that has ended leaves what follows it as if there had been no stars. -/
theorem collapseAfter_of_ended (stars : Nat) {rest : List Char} (ended : ¬['*'] <+: rest) :
    collapseAfter stars rest =
      List.replicate (min stars (if [separator] <+: rest then 3 else 1)) '*' ++
        collapseAfter 0 rest := by
  cases rest with
  | nil => simp [collapseAfter]
  | cons char rest =>
      have notStar : char ≠ '*' := by simpa [eq_comm] using ended
      have follows : [separator] <+: char :: rest ↔ char = separator := by simp [eq_comm]
      rw [collapseAfter_cons stars notStar, collapseAfter_zero_cons notStar]
      simp only [follows]

/-- A text that does not end in a star is collapsed on its own, whatever follows it. -/
theorem collapseAfter_append {stars : Nat} {front : List Char} (fresh : front = [] → stars = 0)
    (closed : ¬['*'] <:+ front) (rest : List Char) :
    collapseAfter stars (front ++ rest) = collapseAfter stars front ++ collapseAfter 0 rest := by
  induction front generalizing stars with
  | nil =>
      rw [fresh rfl]
      rfl
  | cons char front ih =>
      have closedFront : ¬['*'] <:+ front := fun ends =>
        closed (ends.trans (List.suffix_cons char front))
      by_cases isStar : char = '*'
      · subst isStar
        have more : front ≠ [] := by
          rintro rfl
          exact closed (List.suffix_refl _)
        rw [List.cons_append, collapseAfter_star, collapseAfter_star]
        exact ih (fun none => absurd none more) closedFront
      · have behind : collapseAfter 0 (front ++ rest) =
            collapseAfter 0 front ++ collapseAfter 0 rest := ih (fun _ => rfl) closedFront
        rw [List.cons_append, collapseAfter_cons stars isStar, collapseAfter_cons stars isStar,
          behind, List.append_assoc, List.cons_append]

/-- A maximal run of stars is shortened in its place. -/
theorem collapseAfter_append_replicate_append {front rest : List Char} (closed : ¬['*'] <:+ front)
    (stars : Nat) (ended : ¬['*'] <+: rest) :
    collapseAfter 0 (front ++ List.replicate stars '*' ++ rest) =
      collapseAfter 0 front ++
        List.replicate (min stars (if [separator] <+: rest then 3 else 1)) '*' ++
          collapseAfter 0 rest := by
  rw [List.append_assoc, collapseAfter_append (fun _ => rfl) closed,
    collapseAfter_replicate_append, Nat.zero_add, collapseAfter_of_ended stars ended,
    List.append_assoc]

theorem collapseAfter_of_not_mem {text : List Char} (noStar : '*' ∉ text) :
    collapseAfter 0 text = text := by
  induction text with
  | nil => rfl
  | cons char rest ih =>
      rw [List.mem_cons, not_or] at noStar
      rw [collapseAfter_zero_cons (Ne.symm noStar.1), ih noStar.2]

namespace Token

/-! ## Copies of one token -/

/-- Whether a token denotes the empty text, and with two texts the one behind the other. -/
structure Repeats (token : Token) : Prop where
  nil : token.Denotes []
  append {first second : List Char} (denotesFirst : token.Denotes first)
    (denotesSecond : token.Denotes second) : token.Denotes (first ++ second)

theorem repeats_star : Repeats .star where
  nil := List.not_mem_nil
  append firstOutside secondOutside := by
    intro member
    rcases List.mem_append.mp member with inFirst | inSecond
    · exact firstOutside inFirst
    · exact secondOutside inSecond

theorem repeats_deep : Repeats .deep where
  nil := Or.inl rfl
  append denotesFirst denotesSecond := by
    rcases denotesSecond with rfl | ⟨front, rfl⟩
    · rwa [List.append_nil]
    · exact Or.inr ⟨_, (List.append_assoc ..).symm⟩

/-- A copy of a token takes over the text of the one in front of it. -/
theorem composes_cons_cons_iff {token : Token} (repeats : token.Repeats) (tokens : List Token)
    (text : List Char) :
    Composes (token :: token :: tokens) text ↔ Composes (token :: tokens) text := by
  constructor
  · rintro ⟨first, _, rfl, denotesFirst, second, rest, rfl, denotesSecond, composed⟩
    have denotes : token.Denotes (first ++ second) := repeats.append denotesFirst denotesSecond
    exact ⟨first ++ second, rest, (List.append_assoc ..).symm, denotes, composed⟩
  · intro composed
    exact ⟨[], text, rfl, repeats.nil, composed⟩

/-- Any number of copies of a token, but at least one, stand for what one stands for. -/
theorem composes_replicate_succ_iff {token : Token} (repeats : token.Repeats) (count : Nat)
    (tokens : List Token) (text : List Char) :
    Composes (List.replicate (count + 1) token ++ tokens) text ↔
      Composes (token :: tokens) text := by
  induction count generalizing text with
  | zero => rfl
  | succ count ih =>
      calc
        Composes (List.replicate (count + 1 + 1) token ++ tokens) text ↔
            Composes (token :: token :: tokens) text := by
          rw [List.replicate_succ, List.cons_append]
          simp only [composes_cons token, ih]
        _ ↔ Composes (token :: tokens) text := composes_cons_cons_iff repeats tokens text

theorem composes_replicate_min_iff {token : Token} (repeats : token.Repeats) (count : Nat)
    (tokens : List Token) (text : List Char) :
    Composes (List.replicate (min count 1) token ++ tokens) text ↔
      Composes (List.replicate count token ++ tokens) text := by
  cases count with
  | zero => rfl
  | succ count =>
      rw [composes_replicate_succ_iff repeats, Nat.min_eq_right (Nat.le_add_left 1 count)]
      rfl

/-- Tokens may be replaced by others for the same texts, in front and behind. -/
theorem composes_append_congr {first second front back : List Token}
    (first_iff : ∀ text, Composes first text ↔ Composes front text)
    (second_iff : ∀ text, Composes second text ↔ Composes back text) (text : List Char) :
    Composes (first ++ second) text ↔ Composes (front ++ back) text := by
  simp only [composes_append, first_iff, second_iff]

theorem scan_copies_append (count : Nat) (rest : List Char) :
    scan ((List.replicate count (spelling .deep)).flatten ++ rest) =
      List.replicate count .deep ++ scan rest := by
  induction count with
  | zero => rfl
  | succ count ih =>
      rw [List.replicate_succ, List.replicate_succ, List.flatten_cons, List.append_assoc]
      exact congrArg (Token.deep :: ·) ih

/-- Copies of two stars and a separator stand for what one of them stands for, wherever they are. -/
theorem composes_scan_copies_iff (left right : List Char) (count : Nat) (text : List Char) :
    Composes (scan (left ++ (List.replicate (count + 1) (spelling .deep)).flatten ++ right)) text ↔
      Composes (scan (left ++ spelling .deep ++ right)) text := by
  have copies_eq : left ++ (List.replicate (count + 1) (spelling .deep)).flatten ++ right =
      left ++ spelling .deep ++ ((List.replicate count (spelling .deep)).flatten ++ right) := by
    simp [List.replicate_succ]
  rw [copies_eq, scan_append_deep, scan_append_deep, scan_copies_append]
  exact composes_append_congr (fun _ => Iff.rfl)
    (composes_replicate_succ_iff repeats_deep count (scan right)) text

/-! ## Runs of stars -/

/-- The tokens of a run of stars and the separator behind it. -/
def starsBeforeSeparator : Nat → List Token
  | 0 => [.lit separator]
  | 1 => [.star, .lit separator]
  | stars + 2 => List.replicate stars .star ++ [.deep]

theorem scan_stars (stars : Nat) :
    scan (List.replicate stars '*') = List.replicate stars .star := by
  have outside : separator ∉ List.replicate stars '*' := by
    simp [List.mem_replicate, separator]
  rw [scan_of_not_mem outside, List.map_replicate]
  rfl

theorem scan_stars_append_separator (stars : Nat) (rest : List Char) :
    scan (List.replicate stars '*' ++ separator :: rest) =
      starsBeforeSeparator stars ++ scan rest := by
  match stars with
  | 0 => rfl
  | 1 => rfl
  | stars + 2 =>
      have split : List.replicate (stars + 2) '*' ++ separator :: rest =
          List.replicate stars '*' ++ spelling .deep ++ rest := by
        rw [← List.replicate_append_replicate]
        simp [spelling]
      rw [split, scan_append_deep, scan_stars, starsBeforeSeparator, List.append_assoc]
      rfl

theorem scan_stars_append_cons (stars : Nat) {char : Char} (notStar : char ≠ '*')
    (notSeparator : char ≠ separator) (rest : List Char) :
    scan (List.replicate stars '*' ++ char :: rest) =
      List.replicate stars .star ++ ofChar char :: scan rest := by
  have apart : ¬DeepAcross (List.replicate stars '*') (char :: rest) := by
    simp [deepAcross_iff, Ne.symm notStar, Ne.symm notSeparator]
  rw [scan_append apart, scan_stars, scan_cons (deepAt_eq_false_of_ne notStar rest)]

/-- Before a separator three stars stand for what any greater number of them stands for. -/
theorem composes_starsBeforeSeparator_min_iff (stars : Nat) (text : List Char) :
    Composes (starsBeforeSeparator (min stars 3)) text ↔
      Composes (starsBeforeSeparator stars) text := by
  match stars with
  | 0 => rfl
  | 1 => rfl
  | stars + 2 =>
      have shorter : min (stars + 2) 3 = min stars 1 + 2 := by omega
      rw [shorter]
      exact composes_replicate_min_iff repeats_star stars [.deep] text

/-- Collapsing a text that follows some stars keeps the texts of the whole glob. -/
theorem composes_scan_collapseAfter_iff (stars : Nat) (glob text : List Char) :
    Composes (scan (collapseAfter stars glob)) text ↔
      Composes (scan (List.replicate stars '*' ++ glob)) text := by
  induction glob generalizing stars text with
  | nil =>
      rw [collapseAfter, List.append_nil, scan_stars, scan_stars]
      simpa using composes_replicate_min_iff repeats_star stars [] text
  | cons char rest ih =>
      have fresh (text : List Char) :
          Composes (scan (collapseAfter 0 rest)) text ↔ Composes (scan rest) text := by
        simpa using ih 0 text
      by_cases isStar : char = '*'
      · have longer : List.replicate stars '*' ++ '*' :: rest =
            List.replicate (stars + 1) '*' ++ rest := by
          rw [List.replicate_succ', List.append_assoc]
          rfl
        rw [isStar, collapseAfter_star, longer]
        exact ih (stars + 1) text
      · rw [collapseAfter_cons stars isStar]
        by_cases isSeparator : char = separator
        · rw [if_pos isSeparator, isSeparator, scan_stars_append_separator,
            scan_stars_append_separator]
          exact composes_append_congr (composes_starsBeforeSeparator_min_iff stars) fresh text
        · have behind (text : List Char) :
              Composes (ofChar char :: scan (collapseAfter 0 rest)) text ↔
                Composes (ofChar char :: scan rest) text := by
            simp only [composes_cons, fresh]
          rw [if_neg isSeparator, scan_stars_append_cons _ isStar isSeparator,
            scan_stars_append_cons _ isStar isSeparator, composes_replicate_min_iff repeats_star]
          exact composes_append_congr (fun _ => Iff.rfl) behind text

end Token

namespace Glob

/-- A run of stars. -/
def stars (count : Nat) : Glob :=
  ⟨String.ofList (List.replicate count '*')⟩

theorem collapse_of_not_mem {glob : Glob} (noStar : '*' ∉ glob.source.toList) :
    glob.collapse = glob := by
  rw [collapse, collapseAfter_of_not_mem noStar, String.ofList_toList]

theorem collapse_append_stars_append {before after : Glob}
    (closed : ¬"*".toList <:+ before.source.toList) (count : Nat)
    (ended : ¬"*".toList <+: after.source.toList) :
    (before ++ stars count ++ after).collapse =
      before.collapse ++ stars (min count (if "/".toList <+: after.source.toList then 3 else 1)) ++
        after.collapse := by
  have shortened := collapseAfter_append_replicate_append closed count ended
  apply congrArg Glob.mk
  apply String.ext
  simpa [stars, collapse] using shortened

theorem accepts_collapse (glob : Glob) (path : String) :
    glob.collapse.accepts path = glob.accepts path := by
  rw [Bool.eq_iff_iff, accepts_iff_composes, accepts_iff_composes, collapse, String.toList_ofList]
  exact Token.composes_scan_collapseAfter_iff 0 glob.source.toList path.toList

theorem accepts_copies (left right : Glob) (count : Nat) (path : String) :
    (left ++ ⟨String.join (List.replicate (count + 1) "**/")⟩ ++ right).accepts path =
      (left ++ ⟨"**/"⟩ ++ right).accepts path := by
  have copies_eq : (String.join (List.replicate (count + 1) "**/")).toList =
      (List.replicate (count + 1) (Token.spelling .deep)).flatten := by
    rw [String.toList_join, List.flatMap_replicate]
    rfl
  rw [Bool.eq_iff_iff]
  simp only [accepts_iff_composes, source_append, String.toList_append, copies_eq]
  exact Token.composes_scan_copies_iff left.source.toList right.source.toList count path.toList

/-- Collapsing shortens every run of stars in its place, to at most three before a separator and to
one elsewhere, and changes nothing else; the collapsed glob holds of the same paths.  And anywhere
in a glob, two stars and a separator hold of the same paths as any number of copies of them, one
behind the other. -/
theorem collapse_shortens_runs_and_accepts_collapse :
    (∀ glob : Glob, '*' ∉ glob.source.toList → glob.collapse = glob) ∧
      (∀ (before after : Glob) (count : Nat), ¬"*".toList <:+ before.source.toList →
        ¬"*".toList <+: after.source.toList →
          (before ++ stars count ++ after).collapse =
            before.collapse ++
              stars (min count (if "/".toList <+: after.source.toList then 3 else 1)) ++
                after.collapse) ∧
      (∀ (glob : Glob) (path : String), glob.collapse.accepts path = glob.accepts path) ∧
      ∀ (left right : Glob) (count : Nat) (path : String),
        (left ++ ⟨String.join (List.replicate (count + 1) "**/")⟩ ++ right).accepts path =
          (left ++ ⟨"**/"⟩ ++ right).accepts path := by
  refine ⟨?_, ?_, accepts_collapse, accepts_copies⟩
  · intro glob noStar
    exact collapse_of_not_mem noStar
  · intro before after count closed ended
    exact collapse_append_stars_append closed count ended

/-- Five stars between a literal and a separator, and what they are collapsed to. -/
theorem collapse_five_stars_before_separator :
    '*' ∉ "a?".toList ∧ (⟨"a?"⟩ : Glob).collapse = ⟨"a?"⟩ ∧
      ¬"*".toList <:+ "a?".toList ∧ ¬"*".toList <+: "/b".toList ∧
        (⟨"a?"⟩ ++ stars 5 ++ ⟨"/b"⟩ : Glob).collapse =
          (⟨"a?"⟩ : Glob).collapse ++
            stars (min 5 (if "/".toList <+: "/b".toList then 3 else 1)) ++
              (⟨"/b"⟩ : Glob).collapse := by
  obtain ⟨unchanged, shortened, -, -⟩ := collapse_shortens_runs_and_accepts_collapse
  have noStar : '*' ∉ "a?".toList := by decide
  have closed : ¬"*".toList <:+ "a?".toList := by decide
  have ended : ¬"*".toList <+: "/b".toList := by decide
  exact ⟨noStar, unchanged ⟨"a?"⟩ noStar, closed, ended, shortened ⟨"a?"⟩ ⟨"/b"⟩ 5 closed ended⟩

/-- A long run of stars in front of a separator keeps three of them, and all others keep one. -/
example : (⟨"a*****/b**c**/***"⟩ : Glob).collapse = ⟨"a***/b*c**/*"⟩ := by
  decide

end Glob
end PathSets
