import PathSets.Regex.Matcher

/-!
# Acceptance is membership in the language

The marks of a marked expression stand for the texts that complete what was read so far, and
`MarkedRegex.Completes` says which these are.  Moving the marks over one more character takes that
character off the front of every completion, so at the end of a text the marks tell whether the
expression matches it.
-/

namespace PathSets

/-- The empty text has only one cut. -/
theorem exists_append_eq_nil {front back : List Char → Prop} :
    (∃ left right, ([] : List Char) = left ++ right ∧ front left ∧ back right) ↔
      front [] ∧ back [] := by
  constructor
  · rintro ⟨left, right, cut, holdsLeft, holdsRight⟩
    obtain ⟨rfl, rfl⟩ := List.append_eq_nil_iff.mp cut.symm
    exact ⟨holdsLeft, holdsRight⟩
  · rintro ⟨holdsLeft, holdsRight⟩
    exact ⟨[], [], rfl, holdsLeft, holdsRight⟩

/-- A cut of a text either comes before its first character or leaves that character in front. -/
theorem exists_append_eq_cons {char : Char} {text : List Char} {front back : List Char → Prop} :
    (∃ left right, char :: text = left ++ right ∧ front left ∧ back right) ↔
      front [] ∧ back (char :: text) ∨
        ∃ left right, text = left ++ right ∧ front (char :: left) ∧ back right := by
  constructor
  · rintro ⟨left, right, cut, holdsLeft, holdsRight⟩
    rcases List.cons_eq_append_iff.mp cut with ⟨rfl, rfl⟩ | ⟨rest, rfl, rfl⟩
    · exact Or.inl ⟨holdsLeft, holdsRight⟩
    · exact Or.inr ⟨rest, right, rfl, holdsLeft, holdsRight⟩
  · rintro (⟨holdsLeft, holdsRight⟩ | ⟨left, right, rfl, holdsLeft, holdsRight⟩)
    · exact ⟨[], char :: text, rfl, holdsLeft, holdsRight⟩
    · exact ⟨char :: left, right, rfl, holdsLeft, holdsRight⟩

namespace Regex

@[simp] theorem matches_empty_iff {text : List Char} : Matches .empty text ↔ text = [] := by
  constructor
  · rintro ⟨⟩
    rfl
  · rintro rfl
    exact .empty

theorem matches_single_iff {symbol : Symbol} {text : List Char} :
    Matches (.single symbol) text ↔ ∃ char, symbol.accepts char = true ∧ text = [char] := by
  constructor
  · rintro ⟨⟩
    exact ⟨_, ‹_›, rfl⟩
  · rintro ⟨char, accepted, rfl⟩
    exact .single accepted

@[simp] theorem matches_single_cons_iff {symbol : Symbol} {char : Char} {text : List Char} :
    Matches (.single symbol) (char :: text) ↔ symbol.accepts char = true ∧ text = [] := by
  constructor
  · rintro ⟨⟩
    exact ⟨‹_›, rfl⟩
  · rintro ⟨accepted, rfl⟩
    exact .single accepted

theorem matches_cat_iff {first second : Regex} {text : List Char} :
    Matches (.cat first second) text ↔
      ∃ left right, text = left ++ right ∧ Matches first left ∧ Matches second right := by
  constructor
  · rintro ⟨⟩
    exact ⟨_, _, rfl, ‹_›, ‹_›⟩
  · rintro ⟨left, right, rfl, matchesFirst, matchesSecond⟩
    exact .cat matchesFirst matchesSecond

/-- A repetition stands for the texts that are put together from texts of its body. -/
theorem matches_star_iff {body : Regex} {text : List Char} :
    Matches (.star body) text ↔
      ∃ parts : List (List Char), text = parts.flatten ∧ ∀ part ∈ parts, Matches body part := by
  constructor
  · intro matched
    generalize star_eq : Regex.star body = whole at matched
    induction matched with
    | empty | single | cat => cases star_eq
    | starNil => exact ⟨[], rfl, by simp⟩
    | @starCons _ left _ matchesBody _ _ ih =>
        cases star_eq
        obtain ⟨parts, rfl, each⟩ := ih rfl
        exact ⟨left :: parts, rfl, List.forall_mem_cons.mpr ⟨matchesBody, each⟩⟩
  · rintro ⟨parts, rfl, each⟩
    induction parts with
    | nil => exact .starNil
    | cons part rest ih =>
        rw [List.forall_mem_cons] at each
        exact .starCons each.1 (ih each.2)

/-- A repetition that does not stand for the empty text begins with a text of its body that is not
empty either. -/
theorem matches_star_cons_iff {body : Regex} {char : Char} {text : List Char} :
    Matches (.star body) (char :: text) ↔
      ∃ left right, text = left ++ right ∧ Matches body (char :: left) ∧
        Matches (.star body) right := by
  constructor
  · intro matched
    obtain ⟨parts, text_eq, each⟩ := matches_star_iff.mp matched
    induction parts with
    | nil => cases text_eq
    | cons part rest ih =>
        rw [List.forall_mem_cons] at each
        rcases List.cons_eq_append_iff.mp text_eq with ⟨rfl, rest_eq⟩ | ⟨left, rfl, rfl⟩
        · exact ih rest_eq.symm each.2
        · exact ⟨left, rest.flatten, rfl, each.1, matches_star_iff.mpr ⟨rest, rfl, each.2⟩⟩
  · rintro ⟨left, right, rfl, matchesBody, matchesRest⟩
    exact .starCons matchesBody matchesRest

theorem matches_star_single_iff {symbol : Symbol} {text : List Char} :
    Matches (.star (.single symbol)) text ↔ ∀ char ∈ text, symbol.accepts char = true := by
  induction text with
  | nil => simpa using Matches.starNil
  | cons char rest ih =>
      rw [matches_star_cons_iff, List.forall_mem_cons, ← ih]
      simp only [matches_single_cons_iff]
      constructor
      · rintro ⟨_, _, rfl, ⟨accepted, rfl⟩, matchesRest⟩
        exact ⟨accepted, matchesRest⟩
      · rintro ⟨accepted, matchesRest⟩
        exact ⟨[], rest, rfl, ⟨accepted, rfl⟩, matchesRest⟩

theorem nullable_iff (regex : Regex) : regex.nullable = true ↔ regex.Matches [] := by
  induction regex with
  | empty => simp [nullable]
  | single symbol => simp [nullable, matches_single_iff]
  | cat first second first_ih second_ih =>
      rw [matches_cat_iff, exists_append_eq_nil]
      simp [nullable, first_ih, second_ih]
  | star body => simpa [nullable] using Matches.starNil

end Regex

namespace MarkedRegex

open Regex

/-- The texts that lead from a mark to the end of the whole expression. -/
def Completes : MarkedRegex → List Char → Prop
  | .dormant _, _ => False
  | .marked _, text => text = []
  | .cat first second, text =>
      (∃ left right, text = left ++ right ∧ first.Completes left ∧ second.toRegex.Matches right) ∨
        second.Completes text
  | .star body, text =>
      ∃ left right, text = left ++ right ∧ body.Completes left ∧
        (Regex.star body.toRegex).Matches right

theorem completes_joined (first second : MarkedRegex) (text : List Char) :
    (joined first second).Completes text ↔ (MarkedRegex.cat first second).Completes text := by
  cases first <;> cases second <;> simp [joined, Completes]

theorem completes_starred (body : MarkedRegex) (text : List Char) :
    (starred body).Completes text ↔ (MarkedRegex.star body).Completes text := by
  cases body <;> simp [starred, Completes]

theorem exits_iff (marked : MarkedRegex) : marked.exits = true ↔ marked.Completes [] := by
  induction marked with
  | dormant => simp [exits, Completes]
  | marked => simp [exits, Completes]
  | cat first second first_ih second_ih =>
      rw [Completes, exists_append_eq_nil, ← nullable_iff, nullable_toRegex]
      simp [exits, first_ih, second_ih]
  | star body ih =>
      rw [Completes, exists_append_eq_nil, exits, ih]
      exact (and_iff_left .starNil).symm

theorem completes_start (char : Char) (regex : Regex) (text : List Char) :
    (start char regex).Completes text ↔ regex.Matches (char :: text) := by
  induction regex generalizing text with
  | empty => simp [start, Completes]
  | single symbol =>
      by_cases accepted : symbol.accepts char <;> simp [start, accepted, Completes]
  | cat first second first_ih second_ih =>
      rw [matches_cat_iff, exists_append_eq_cons, ← nullable_iff]
      by_cases optional : first.nullable <;>
        simp [start, optional, completes_joined, Completes, toRegex, first_ih, second_ih, or_comm]
  | star body ih => simp [start, completes_starred, Completes, ih, matches_star_cons_iff]

theorem completes_shift (enters : Bool) (char : Char) (marked : MarkedRegex) (text : List Char) :
    (marked.shift enters char).Completes text ↔
      marked.Completes (char :: text) ∨
        enters = true ∧ marked.toRegex.Matches (char :: text) := by
  induction marked generalizing enters text with
  | dormant regex => cases enters <;> simp [shift, Completes, toRegex, completes_start]
  | marked symbol =>
      by_cases entered : enters <;> by_cases accepted : symbol.accepts char <;>
        simp [shift, entered, accepted, Completes, toRegex]
  | cat first second first_ih second_ih =>
      simp only [shift, completes_joined, Completes, toRegex, toRegex_shift, first_ih, second_ih,
        matches_cat_iff, exists_append_eq_cons, Bool.or_eq_true, Bool.and_eq_true, exits_iff,
        ← nullable_iff, nullable_toRegex]
      grind
  | star body ih =>
      simp only [shift, completes_starred, Completes, toRegex, toRegex_shift, ih,
        matches_star_cons_iff, exists_append_eq_cons, Bool.or_eq_true, exits_iff]
      grind

theorem completes_prune (marked : MarkedRegex) (text : List Char) :
    marked.prune.Completes text ↔ marked.Completes text := by
  induction marked with
  | dormant | marked | star => rfl
  | cat first second _ second_ih => cases first <;> simp [prune, Completes, second_ih]

theorem completes_advance (marked : MarkedRegex) (front back : List Char) :
    (marked.advance front).Completes back ↔ marked.Completes (front ++ back) := by
  induction front generalizing marked with
  | nil => rfl
  | cons char rest ih => simp [advance, ih, completes_prune, completes_shift]

end MarkedRegex

/-- Moving the marks over a text decides whether an expression matches it. -/
theorem Regex.accepts_iff_matches (regex : Regex) (text : List Char) :
    regex.accepts text = true ↔ regex.Matches text := by
  cases text with
  | nil => exact nullable_iff regex
  | cons char rest =>
      rw [accepts, MarkedRegex.exits_iff, MarkedRegex.completes_advance, List.append_nil,
        MarkedRegex.completes_start]

end PathSets
