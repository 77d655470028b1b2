import Mathlib.Algebra.Group.Nat.Defs
import PathSets.Text.Quoted

/-!
# Quoted texts can be read

Between the quotes, every character is written so that it is read back whatever follows it: no
character stands as it is that closes the text or begins an escape, and an escape has a fixed number
of digits.  So a quoted text is read back whichever quote was put around it and whichever characters
were taken to be visible.
-/

namespace PathSets
namespace Quoted

/-! ## Hexadecimal digits -/

theorem digit?_digitChar {digit : Nat} (bounded : digit < 16) :
    digit? (Nat.digitChar digit) = some digit := by
  revert digit
  decide

theorem hexValue?_append (number : Nat) (front back : List Char) :
    hexValue? number (front ++ back) =
      (hexValue? number front).bind fun value => hexValue? value back := by
  induction front generalizing number with
  | nil => rfl
  | cons char rest ih =>
      rw [List.cons_append, hexValue?, hexValue?]
      cases digit? char with
      | none => rfl
      | some digit => exact ih _

/-- The digits of a number are read as its value, as far as there are digits for it. -/
theorem hexValue?_hex (width start number : Nat) :
    hexValue? start (hex width number) = some (16 ^ width * start + number % 16 ^ width) := by
  induction width generalizing number with
  | zero => simp [hex, hexValue?, Nat.mod_one]
  | succ width ih =>
      have digit : digit? (Nat.digitChar (number % 16)) = some (number % 16) :=
        digit?_digitChar (Nat.mod_lt _ (by decide))
      have split : number % 16 ^ (width + 1) =
          number % 16 + 16 * (number / 16 % 16 ^ width) := by
        rw [Nat.pow_succ', Nat.mod_mul]
      have shifted : 16 ^ (width + 1) * start = 16 * (16 ^ width * start) := by
        rw [Nat.pow_succ', Nat.mul_assoc]
      rw [hex, hexValue?_append, ih, split, shifted]
      simp [hexValue?, digit]
      omega

/-- A character is read back from the digits of its code, if there are enough of them. -/
theorem hexChar?_hex {width : Nat} {char : Char} (enough : char.toNat < 16 ^ width) :
    hexChar? (hex width char.toNat) = some char := by
  rw [hexChar?, hexValue?_hex, Nat.mul_zero, Nat.zero_add, Nat.mod_eq_of_lt enough]
  simp

/-! ## Characters between quotes -/

theorem delimiter_eq (text : List Char) : delimiter text = '\'' ∨ delimiter text = '"' := by
  unfold delimiter
  split
  · exact Or.inr rfl
  · exact Or.inl rfl

variable {quote : Char}

/-- A character that is neither the quote nor a backslash is read as itself. -/
theorem readUntil_cons {char : Char} (notQuote : char ≠ quote) (notEscape : char ≠ '\\')
    (rest : List Char) :
    readUntil quote (char :: rest) = prepend (some char) (readUntil quote rest) := by
  rw [readUntil]
  · simp [notQuote, notEscape]
  all_goals
    intros
    exact absurd ‹_› notEscape

/-- An escape by digits is read as the character of their value; there are as many digits as its
letter asks for. -/
theorem readUntil_hex_append (quote char : Char) (rest : List Char) :
    (char.toNat < 0x100 → readUntil quote ('\\' :: 'x' :: hex 2 char.toNat ++ rest) =
        prepend (some char) (readUntil quote rest)) ∧
      (char.toNat < 0x10000 → readUntil quote ('\\' :: 'u' :: hex 4 char.toNat ++ rest) =
        prepend (some char) (readUntil quote rest)) ∧
      readUntil quote ('\\' :: 'U' :: hex 8 char.toNat ++ rest) =
        prepend (some char) (readUntil quote rest) := by
  refine ⟨fun bounded => ?_, fun bounded => ?_, ?_⟩
  · have digits : hexChar? (hex 2 char.toNat) = some char := hexChar?_hex bounded
    rw [← digits]
    rfl
  · have digits : hexChar? (hex 4 char.toNat) = some char := hexChar?_hex bounded
    rw [← digits]
    rfl
  · have digits : hexChar? (hex 8 char.toNat) = some char := hexChar?_hex char.val.toNat_lt_size
    rw [← digits]
    rfl

/-- What a character is written as is read as that character, whatever follows. -/
theorem readUntil_escape_append (visible : Char → Bool) (isQuote : quote = '\'' ∨ quote = '"')
    (char : Char) (rest : List Char) :
    readUntil quote (escape visible quote char ++ rest) =
      prepend (some char) (readUntil quote rest) := by
  obtain ⟨twoDigits, fourDigits, eightDigits⟩ := readUntil_hex_append quote char rest
  unfold escape
  split
  case isTrue special =>
    rcases special with rfl | rfl
    · rcases isQuote with rfl | rfl <;> rfl
    · rcases isQuote with rfl | rfl <;> rfl
  case isFalse plain =>
    obtain ⟨notQuote, notEscape⟩ := not_or.mp plain
    split
    case isTrue newline =>
      subst newline
      rfl
    split
    case isTrue carriageReturn =>
      subst carriageReturn
      rfl
    split
    case isTrue tab =>
      subst tab
      rfl
    split
    case isTrue => exact readUntil_cons notQuote notEscape rest
    split
    case isTrue => exact readUntil_cons notQuote notEscape rest
    split
    case isTrue bounded => exact twoDigits bounded
    split
    case isTrue bounded => exact fourDigits bounded
    exact eightDigits

theorem readUntil_flatMap_escape_append (visible : Char → Bool)
    (isQuote : quote = '\'' ∨ quote = '"') (text rest : List Char) :
    readUntil quote (text.flatMap (escape visible quote) ++ quote :: rest) = some (text, rest) := by
  induction text with
  | nil => rcases isQuote with rfl | rfl <;> rfl
  | cons char others ih =>
      rw [List.flatMap_cons, List.append_assoc, readUntil_escape_append visible isQuote, ih]
      rfl

/-- A quoted text in front of another text is read back, and what stands behind it is left. -/
theorem read?_encode_append (visible : Char → Bool) (text rest : List Char) :
    read? (encode visible text ++ rest) = some (text, rest) := by
  have isQuote := delimiter_eq text
  have body := readUntil_flatMap_escape_append visible isQuote text rest
  simp only [encode, List.cons_append, List.append_assoc, List.nil_append]
  rcases isQuote with equal | equal
  · rw [equal] at body ⊢
    exact body
  · rw [equal] at body ⊢
    exact body

end Quoted
end PathSets
