import Mathlib.Logic.Equiv.Basic
import PathSets.Proofs.Glob.Language

/-!
# Renaming characters

Only the separator, the star and the question mark mean something in a glob.  If all other
characters of a glob and of a path are renamed, distinct ones to distinct ones, the answer stays the
same: the renamed glob has the renamed tokens, each of them denotes the renamed texts, and a renamed
text is cut only where the text itself can be cut.
-/

namespace PathSets

/-- Whether a map of characters keeps distinct characters distinct, and those that mean something in
a glob as they are. -/
structure IsRenaming (rename : Char → Char) : Prop where
  injective : Function.Injective rename
  separator_fixed : rename separator = separator
  star_fixed : rename '*' = '*'
  one_fixed : rename '?' = '?'

namespace IsRenaming

variable {rename : Char → Char} (renames : IsRenaming rename) (char : Char)
include renames

theorem apply_eq_iff_of_fixed {fixed : Char} (fixed_eq : rename fixed = fixed) :
    rename char = fixed ↔ char = fixed := by
  constructor
  · intro equal
    exact renames.injective (equal.trans fixed_eq.symm)
  · rintro rfl
    exact fixed_eq

theorem apply_eq_separator_iff : rename char = separator ↔ char = separator :=
  renames.apply_eq_iff_of_fixed char renames.separator_fixed

theorem apply_eq_star_iff : rename char = '*' ↔ char = '*' :=
  renames.apply_eq_iff_of_fixed char renames.star_fixed

theorem apply_eq_one_iff : rename char = '?' ↔ char = '?' :=
  renames.apply_eq_iff_of_fixed char renames.one_fixed

end IsRenaming

namespace Token

/-- A token with its character renamed. -/
def map (rename : Char → Char) : Token → Token
  | .lit char => .lit (rename char)
  | .deep => .deep
  | .star => .star
  | .one => .one

variable {rename : Char → Char} (renames : IsRenaming rename)
include renames

/-! ## Scanning a renamed glob -/

theorem ofChar_apply (char : Char) : ofChar (rename char) = (ofChar char).map rename := by
  simp only [ofChar, renames.apply_eq_star_iff, renames.apply_eq_one_iff]
  split
  · rfl
  · split <;> rfl

/-- Two stars and a separator stand at the front of a renamed text where they stand in the text. -/
theorem deepAt_map_zero (glob : List Char) : deepAt (glob.map rename) 0 = deepAt glob 0 := by
  rw [Bool.eq_iff_iff, deepAt_zero_iff, deepAt_zero_iff]
  match glob with
  | [] | [_] | [_, _] => simp
  | first :: second :: third :: rest =>
      have third_iff : rename third = '/' ↔ third = '/' := renames.apply_eq_separator_iff third
      simp [renames.apply_eq_star_iff, third_iff]

/-- A renamed glob has the renamed tokens. -/
theorem scan_map (glob : List Char) : scan (glob.map rename) = (scan glob).map (map rename) := by
  induction glob using scanInduction with
  | nil => rfl
  | deep rest ih =>
      have begins : ('*' :: '*' :: '/' :: rest).map rename =
          '*' :: '*' :: '/' :: rest.map rename := by
        have separator_fixed : rename '/' = '/' := renames.separator_fixed
        simp [renames.star_fixed, separator_fixed]
      rw [begins, scan_deep, scan_deep, ih]
      rfl
  | plain char rest plain ih =>
      have plain_renamed : deepAt (rename char :: rest.map rename) 0 = false :=
        (deepAt_map_zero renames (char :: rest)).trans plain
      rw [List.map_cons, scan_cons plain_renamed, scan_cons plain, List.map_cons, ih,
        ofChar_apply renames]

/-! ## Texts of renamed tokens -/

theorem separator_mem_map_iff (text : List Char) :
    separator ∈ text.map rename ↔ separator ∈ text := by
  simp [List.mem_map, renames.apply_eq_separator_iff]

theorem exists_map_eq_append_separator_iff (text : List Char) :
    (∃ front, text.map rename = front ++ [separator]) ↔ ∃ front, text = front ++ [separator] := by
  constructor
  · rintro ⟨_, text_eq⟩
    obtain ⟨front, last, rfl, -, last_eq⟩ := List.map_eq_append_iff.mp text_eq
    obtain ⟨char, rfl, isSeparator⟩ := List.map_eq_singleton_iff.mp last_eq
    rw [renames.apply_eq_separator_iff] at isSeparator
    exact ⟨front, by rw [isSeparator]⟩
  · rintro ⟨front, rfl⟩
    exact ⟨front.map rename, by simp [renames.separator_fixed]⟩

/-- A renamed token denotes a renamed text exactly if the token denotes the text. -/
theorem denotes_map_iff (token : Token) (text : List Char) :
    (token.map rename).Denotes (text.map rename) ↔ token.Denotes text := by
  cases token with
  | deep =>
      simp only [map, Denotes, List.map_eq_nil_iff, exists_map_eq_append_separator_iff renames]
  | star => exact not_congr (separator_mem_map_iff renames text)
  | one =>
      constructor
      · rintro ⟨_, inside, text_eq⟩
        obtain ⟨char, rfl, rfl⟩ := List.map_eq_singleton_iff.mp text_eq
        rw [ne_eq, renames.apply_eq_separator_iff] at inside
        exact ⟨char, inside, rfl⟩
      · rintro ⟨char, inside, rfl⟩
        rw [ne_eq, ← renames.apply_eq_separator_iff char] at inside
        exact ⟨rename char, inside, rfl⟩
  | lit char =>
      constructor
      · intro text_eq
        obtain ⟨only, rfl, only_eq⟩ := List.map_eq_singleton_iff.mp text_eq
        exact congrArg ([·]) (renames.injective only_eq)
      · rintro rfl
        rfl

/-- Renamed texts are put together from renamed texts exactly as the texts are. -/
theorem composes_map_iff (tokens : List Token) (text : List Char) :
    Composes (tokens.map (map rename)) (text.map rename) ↔ Composes tokens text := by
  induction tokens generalizing text with
  | nil => exact List.map_eq_nil_iff
  | cons token rest ih =>
      have denotes_iff := denotes_map_iff renames token
      constructor
      · rintro ⟨_, _, text_eq, denotes, composed⟩
        obtain ⟨left, right, rfl, rfl, rfl⟩ := List.map_eq_append_iff.mp text_eq
        exact ⟨left, right, rfl, (denotes_iff left).mp denotes, (ih right).mp composed⟩
      · rintro ⟨left, right, rfl, denotes, composed⟩
        exact ⟨left.map rename, right.map rename, List.map_append,
          (denotes_iff left).mpr denotes, (ih right).mpr composed⟩

end Token

namespace Glob

/-- A glob with its characters renamed. -/
def map (rename : Char → Char) (glob : Glob) : Glob :=
  ⟨glob.source.map rename⟩

/-- Renaming characters in a glob and in a path changes no answer, as long as the separator, the
star and the question mark stay what they are: no other character has a meaning of its own. -/
theorem accepts_map {rename : Char → Char} (bijective : Function.Bijective rename)
    (separator_fixed : rename separator = separator) (star_fixed : rename '*' = '*')
    (one_fixed : rename '?' = '?') (glob : Glob) (path : String) :
    (glob.map rename).accepts (path.map rename) = glob.accepts path := by
  have renames : IsRenaming rename :=
    ⟨bijective.injective, separator_fixed, star_fixed, one_fixed⟩
  rw [Bool.eq_iff_iff, accepts_iff_composes, accepts_iff_composes, map, String.toList_map,
    String.toList_map, Token.scan_map renames]
  exact Token.composes_map_iff renames _ _

/-- A letter, which is written as it is in a regular expression, and a line end, which is not,
change places in a glob and in a path that ends in the line end. -/
theorem accepts_map_of_letter_and_line_end :
    Function.Bijective (Equiv.swap 'b' '\n') ∧ Equiv.swap 'b' '\n' separator = separator ∧
      Equiv.swap 'b' '\n' '*' = '*' ∧ Equiv.swap 'b' '\n' '?' = '?' ∧
      (⟨"**/b.?"⟩ : Glob).accepts "a/b.\n" = true ∧
      ((⟨"**/b.?"⟩ : Glob).map (Equiv.swap 'b' '\n')).accepts
        ("a/b.\n".map (Equiv.swap 'b' '\n')) = (⟨"**/b.?"⟩ : Glob).accepts "a/b.\n" := by
  have bijective : Function.Bijective (Equiv.swap 'b' '\n') := Equiv.bijective _
  have separator_fixed : Equiv.swap 'b' '\n' separator = separator := by decide
  have star_fixed : Equiv.swap 'b' '\n' '*' = '*' := by decide
  have one_fixed : Equiv.swap 'b' '\n' '?' = '?' := by decide
  have accepted : (⟨"**/b.?"⟩ : Glob).accepts "a/b.\n" = true := by decide
  exact ⟨bijective, separator_fixed, star_fixed, one_fixed, accepted,
    accepts_map bijective separator_fixed star_fixed one_fixed _ _⟩

end Glob
end PathSets
