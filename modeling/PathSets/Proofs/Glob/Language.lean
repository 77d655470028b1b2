import PathSets.PathSet.Basic
import PathSets.Proofs.Glob.Scanning
import PathSets.Proofs.Regex.Acceptance
import PathSets.Proofs.Regex.Reading

/-!
# Globs accept their language

The regular expression of a token matches what the token denotes, so that of a glob matches what is
composed of one text for each token.  Together with reading and acceptance of regular expressions
this says of every glob that its written form is well formed and holds of the paths in its language.
-/

namespace PathSets
namespace Token

open Regex

/-- One segment with its separator, in writing the inner part of two stars and a separator. -/
theorem matches_closedSegment_iff {text : List Char} :
    Matches (.sequence [.star (.single .inSegment), .single (.lit separator)]) text ↔
      ∃ segment, separator ∉ segment ∧ text = segment ++ [separator] := by
  simp only [sequence_cons, sequence_nil, matches_cat_iff, matches_star_single_iff,
    matches_empty_iff, matches_single_iff, Symbol.accepts_inSegment, Symbol.accepts_lit]
  constructor
  · rintro ⟨segment, _, rfl, inside, _, _, rfl, ⟨_, rfl, rfl⟩, rfl⟩
    exact ⟨segment, fun member => inside separator member rfl, rfl⟩
  · rintro ⟨segment, outside, rfl⟩
    refine ⟨segment, [separator], rfl, ?_, [separator], [], rfl, ⟨separator, rfl, rfl⟩, rfl⟩
    rintro char member rfl
    exact outside member

theorem matches_deep_separator_cons {text : List Char}
    (matched : (Token.regex .deep).Matches text) :
    (Token.regex .deep).Matches (separator :: text) :=
  .starCons (matches_closedSegment_iff.mpr ⟨[], List.not_mem_nil, rfl⟩) matched

theorem matches_deep_append_separator (front : List Char) :
    (Token.regex .deep).Matches (front ++ [separator]) := by
  induction front with
  | nil => exact matches_deep_separator_cons .starNil
  | cons char rest ih =>
      by_cases cut : char = separator
      · rw [cut]
        exact matches_deep_separator_cons ih
      · obtain ⟨next, behind, rest_eq⟩ : ∃ next behind, rest ++ [separator] = next :: behind :=
          List.exists_cons_of_ne_nil (by simp)
        rw [Token.regex, rest_eq, matches_star_cons_iff] at ih
        obtain ⟨left, right, rfl, matchesFirst, matchesRest⟩ := ih
        obtain ⟨segment, outside, first_eq⟩ := matches_closedSegment_iff.mp matchesFirst
        have longer_eq : char :: next :: left = (char :: segment) ++ [separator] := by
          rw [first_eq, List.cons_append]
        have outsideLonger : separator ∉ char :: segment := by
          simp [outside, Ne.symm cut]
        rw [List.cons_append, rest_eq]
        exact .starCons (matches_closedSegment_iff.mpr ⟨_, outsideLonger, longer_eq⟩) matchesRest

theorem eq_nil_or_append_separator_of_matches_deep {text : List Char}
    (matched : (Token.regex .deep).Matches text) :
    text = [] ∨ ∃ front, text = front ++ [separator] := by
  obtain ⟨parts, rfl, each⟩ := matches_star_iff.mp matched
  clear matched
  induction parts with
  | nil => exact Or.inl rfl
  | cons part rest ih =>
      rw [List.forall_mem_cons] at each
      obtain ⟨segment, _, rfl⟩ := matches_closedSegment_iff.mp each.1
      rcases ih each.2 with rest_eq | ⟨front, rest_eq⟩
      · exact Or.inr ⟨segment, by simp [rest_eq]⟩
      · exact Or.inr ⟨segment ++ separator :: front, by simp [rest_eq]⟩

/-- A token's regular expression matches what the token denotes. -/
theorem matches_regex_iff (token : Token) (text : List Char) :
    token.regex.Matches text ↔ token.Denotes text := by
  cases token with
  | deep =>
      constructor
      · exact eq_nil_or_append_separator_of_matches_deep
      · rintro (rfl | ⟨front, rfl⟩)
        · exact .starNil
        · exact matches_deep_append_separator front
  | star =>
      simp only [regex, matches_star_single_iff, Symbol.accepts_inSegment, Denotes]
      exact ⟨fun inside member => inside separator member rfl, by grind⟩
  | one => simp [regex, matches_single_iff, Denotes]
  | lit char => simp [regex, matches_single_iff, Denotes]

theorem matches_sequence_iff (tokens : List Token) (text : List Char) :
    (sequence (tokens.map Token.regex)).Matches text ↔ Composes tokens text := by
  induction tokens generalizing text with
  | nil => exact matches_empty_iff
  | cons token rest ih =>
      simp only [List.map_cons, sequence_cons, matches_cat_iff, composes_cons, ih,
        matches_regex_iff]

theorem item_regex (token : Token) : Item token.regex := by
  cases token with
  | deep =>
      refine .group [.star (.single .inSegment), .single (.lit separator)] ?_
      simpa using ⟨.repeated _, .single _⟩
  | star => exact .repeated _
  | one => exact .single _
  | lit char => exact .single _

end Token

namespace Glob

theorem mem_iff_composes {glob : Glob} {path : String} :
    path ∈ glob ↔ Token.Composes glob.tokens path.toList := by
  rw [tokens, Token.scan_eq_byOccurrence]
  rfl

theorem matches_regex_iff_mem (glob : Glob) (path : String) :
    glob.regex.Matches path.toList ↔ path ∈ glob := by
  rw [mem_iff_composes, regex, Token.matches_sequence_iff]

theorem accepts_iff_mem (glob : Glob) (path : String) : glob.accepts path = true ↔ path ∈ glob := by
  rw [accepts, Regex.accepts_iff_matches, matches_regex_iff_mem]

theorem accepts_iff_composes (glob : Glob) (path : String) :
    glob.accepts path = true ↔ Token.Composes (Token.scan glob.source.toList) path.toList := by
  rw [accepts_iff_mem, mem_iff_composes, tokens]

instance (glob : Glob) (path : String) : Decidable (path ∈ glob) :=
  decidable_of_iff _ (glob.accepts_iff_mem path)

/-- A path is decided by whether it is in the language of the glob. -/
theorem test_text (glob : Glob) (path : String) :
    glob.test (.text path) = .ok (decide (path ∈ glob)) := by
  rw [Glob.test, Except.ok.injEq, Bool.eq_iff_iff, accepts_iff_mem, decide_eq_true_iff]

theorem read?_regexText (glob : Glob) :
    Regex.read? glob.regexText.toList = some glob.regex := by
  rw [regexText, String.toList_ofList, regex]
  apply Regex.read?_anchoredText
  simpa using fun token _ => token.item_regex

/-- The written form of a glob is a well-formed regular expression.  It matches the paths in the
language of the glob and no others, and so does the glob decide every path. -/
theorem exists_read?_regexText_and_test_eq (glob : Glob) :
    ∃ regex, Regex.read? glob.regexText.toList = some regex ∧
      ∀ path : String, (regex.Matches path.toList ↔ path ∈ glob) ∧
        glob.test (.text path) = .ok (decide (path ∈ glob)) :=
  ⟨glob.regex, glob.read?_regexText, fun path =>
    ⟨glob.matches_regex_iff_mem path, glob.test_text path⟩⟩

end Glob
end PathSets
