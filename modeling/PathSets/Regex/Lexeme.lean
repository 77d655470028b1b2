import PathSets.Regex.Basic

/-!
# The written form of regular expressions, sign by sign

A `Lexeme` is one sign of the written form.  `Lexeme.text` spells it and `Lexeme.scan` cuts a text
back into signs.
-/

namespace PathSets

/-- Whether a character is written with a backslash when it stands for itself: the punctuation that
regular expressions use, and white space. -/
def isEscaped (char : Char) : Bool :=
  match char with
  | '(' | ')' | '[' | ']' | '{' | '}' | '?' | '*' | '+' | '-' | '|' | '^' | '$' | '\\' | '.' | '&'
  | '~' | '#' | ' ' | '\t' | '\n' | '\r' | '\x0b' | '\x0c' => true
  | _ => false

/-- Whether a character that stands alone has a meaning other than itself. -/
def isMeta (char : Char) : Bool :=
  match char with
  | '(' | ')' | '[' | ']' | '{' | '}' | '?' | '*' | '+' | '|' | '^' | '$' | '\\' | '.' => true
  | _ => false

theorem isEscaped_of_isMeta {char : Char} (special : isMeta char = true) :
    isEscaped char = true := by
  unfold isMeta at special
  split at special <;> first | rfl | contradiction

/-- One sign of a written regular expression. -/
inductive Lexeme where
  /-- A character that stands for itself. -/
  | lit (char : Char)
  /-- The class of all characters other than the separator. -/
  | inSegment
  /-- Repeats what stands before it. -/
  | star
  /-- Opens a group. -/
  | openGroup
  /-- Opens the group around a whole expression, in which line ends are like other characters. -/
  | openAll
  /-- Closes the innermost group. -/
  | close
  /-- Holds at the end of the text alone. -/
  | textEnd
deriving DecidableEq, Repr, Inhabited

namespace Lexeme

/-- How a sign is written. -/
def text : Lexeme → List Char
  | .lit char => if isEscaped char then ['\\', char] else [char]
  | .inSegment => ['[', '^', separator, ']']
  | .star => ['*']
  | .openGroup => ['(', '?', ':']
  | .openAll => ['(', '?', 's', ':']
  | .close => [')']
  | .textEnd => ['\\', 'Z']

/-- The signs of a text, or nothing when some part of it is no sign. -/
def scan : List Char → Option (List Lexeme)
  | [] => some []
  | '(' :: '?' :: ':' :: rest => (scan rest).map (.openGroup :: ·)
  | '(' :: '?' :: 's' :: ':' :: rest => (scan rest).map (.openAll :: ·)
  | ')' :: rest => (scan rest).map (.close :: ·)
  | '[' :: '^' :: '/' :: ']' :: rest => (scan rest).map (.inSegment :: ·)
  | '*' :: rest => (scan rest).map (.star :: ·)
  | '\\' :: 'Z' :: rest => (scan rest).map (.textEnd :: ·)
  | '\\' :: char :: rest => if isEscaped char then (scan rest).map (.lit char :: ·) else none
  | char :: rest => if isMeta char then none else (scan rest).map (.lit char :: ·)

end Lexeme

end PathSets
