import PathSets.Glob.Language

/-!
# How globs are scanned

Scanning takes two stars and a separator off the front of a glob where they stand there, and one
character otherwise; `Token.scanInduction` is the induction that goes with it.  The scan finds the
tokens where they occur, and the tokens spell the glob.
-/

namespace PathSets
namespace Token

/-- The token of a character that is no part of two stars before a separator. -/
def ofChar (char : Char) : Token :=
  if char = '*' then .star else if char = '?' then .one else .lit char

@[simp] theorem spelling_ofChar (char : Char) : (ofChar char).spelling = [char] := by
  unfold ofChar
  split
  · simp_all [spelling]
  · split <;> simp_all [spelling]

theorem deepAt_zero_iff {glob : List Char} :
    deepAt glob 0 = true ↔ ∃ rest, glob = '*' :: '*' :: '/' :: rest := by
  match glob with
  | [] | [_] | [_, _] => simp [deepAt, spelling]
  | first :: second :: third :: rest => simp [deepAt, spelling, separator]

@[simp] theorem deepAt_succ (char : Char) (rest : List Char) (index : Nat) :
    deepAt (char :: rest) (index + 1) = deepAt rest index := rfl

@[simp] theorem deepAt_deep (rest : List Char) : deepAt ('*' :: '*' :: '/' :: rest) 0 = true := rfl

@[simp] theorem deepAt_star_separator (rest : List Char) :
    deepAt ('*' :: '/' :: rest) 0 = false := rfl

@[simp] theorem deepAt_separator (rest : List Char) : deepAt ('/' :: rest) 0 = false := rfl

theorem deepAt_eq_false_of_ne {char : Char} (notStar : char ≠ '*') (rest : List Char) :
    deepAt (char :: rest) 0 = false := by
  rw [Bool.eq_false_iff, ne_eq, deepAt_zero_iff]
  intro begins
  obtain ⟨behind, equal⟩ := begins
  exact notStar (List.cons.inj equal).1

/-- Induction over a glob the way it is scanned. -/
@[elab_as_elim]
theorem scanInduction {motive : List Char → Prop} (nil : motive [])
    (deep : ∀ rest, motive rest → motive ('*' :: '*' :: '/' :: rest))
    (plain : ∀ char rest, deepAt (char :: rest) 0 = false → motive rest → motive (char :: rest))
    (glob : List Char) : motive glob := by
  induction length_eq : glob.length using Nat.strongRecOn generalizing glob with
  | ind length ih =>
      subst length_eq
      cases glob with
      | nil => exact nil
      | cons char rest =>
          cases begins : deepAt (char :: rest) 0 with
          | false => exact plain char rest begins (ih rest.length (by simp) rest rfl)
          | true =>
              obtain ⟨behind, equal⟩ := deepAt_zero_iff.mp begins
              rw [equal] at ih ⊢
              exact deep behind (ih behind.length (by grind) behind rfl)

@[simp] theorem scan_nil : scan [] = [] := rfl

@[simp] theorem scan_deep (rest : List Char) :
    scan ('*' :: '*' :: '/' :: rest) = .deep :: scan rest := rfl

theorem scan_cons {char : Char} {rest : List Char} (plain : deepAt (char :: rest) 0 = false) :
    scan (char :: rest) = ofChar char :: scan rest := by
  have noDeep (behind : List Char) : char = '*' → rest ≠ '*' :: '/' :: behind := by
    rintro rfl rfl
    simp at plain
  by_cases isStar : char = '*'
  · subst isStar
    rw [scan]
    · simp [ofChar]
    · exact fun behind equal => noDeep behind rfl equal
  · by_cases isOne : char = '?'
    · subst isOne
      rfl
    · rw [scan] <;> simp [ofChar, isStar, isOne]

/-- The tokens of a glob spell it. -/
@[simp] theorem flatMap_spelling_scan (glob : List Char) :
    (scan glob).flatMap spelling = glob := by
  induction glob using scanInduction with
  | nil => rfl
  | deep rest ih => simp [spelling, ih]
  | plain char rest begins ih => simp [scan_cons begins, ih]

theorem filterMap_range_succ {α : Type} (find : Nat → Option α) (count : Nat) :
    (List.range (count + 1)).filterMap find =
      (find 0).toList ++ (List.range count).filterMap fun index => find (index + 1) := by
  rw [List.range_succ_eq_map, List.filterMap_cons, List.filterMap_map]
  cases find 0 <;> rfl

/-- What begins behind a character is found without it, unless a longer token begins there. -/
theorem beginningAt_succ {char : Char} {rest : List Char}
    (plain : deepAt (char :: rest) 0 = false) (index : Nat) :
    beginningAt (char :: rest) (index + 1) = beginningAt rest index := by
  match index with
  | 0 => simp [beginningAt, plain]
  | 1 => simp [beginningAt, plain]
  | index + 2 => simp [beginningAt]

/-- What begins behind two stars and a separator is found without them. -/
theorem beginningAt_deep_add_three (rest : List Char) (index : Nat) :
    beginningAt ('*' :: '*' :: '/' :: rest) (index + 3) = beginningAt rest index := by
  match index with
  | 0 => simp [beginningAt]
  | 1 => simp [beginningAt]
  | index + 2 => simp [beginningAt]

theorem byOccurrence_deep (rest : List Char) :
    byOccurrence ('*' :: '*' :: '/' :: rest) = .deep :: byOccurrence rest := by
  have first : beginningAt ('*' :: '*' :: '/' :: rest) 0 = some .deep := rfl
  have second : beginningAt ('*' :: '*' :: '/' :: rest) 1 = none := rfl
  have third : beginningAt ('*' :: '*' :: '/' :: rest) 2 = none := rfl
  simp only [byOccurrence, List.length_cons, filterMap_range_succ, first, second, third,
    beginningAt_deep_add_three]
  rfl

theorem byOccurrence_cons {char : Char} {rest : List Char}
    (plain : deepAt (char :: rest) 0 = false) :
    byOccurrence (char :: rest) = ofChar char :: byOccurrence rest := by
  have first : beginningAt (char :: rest) 0 = some (ofChar char) := by
    simp [beginningAt, plain, ofChar]
  simp only [byOccurrence, List.length_cons, filterMap_range_succ, first, beginningAt_succ plain]
  rfl

/-- Scanning finds the tokens where they occur. -/
theorem scan_eq_byOccurrence (glob : List Char) : scan glob = byOccurrence glob := by
  induction glob using scanInduction with
  | nil => rfl
  | deep rest ih => rw [scan_deep, byOccurrence_deep, ih]
  | plain char rest begins ih => rw [scan_cons begins, byOccurrence_cons begins, ih]

end Token
end PathSets
