/-!
# Regular expressions over path characters

The fragment of regular expressions that globs need: single symbols, concatenation and repetition.
`Regex.Matches` is the language of an expression, said without any matching procedure.

Paths are texts cut into segments by one character, which is the only one that the wildcards of a
glob refuse to cross.
-/

namespace PathSets

/-- The character between two segments of a path. -/
abbrev separator : Char := '/'

/-- What may stand at one position of a text. -/
inductive Symbol where
  /-- Exactly this character. -/
  | lit (char : Char)
  /-- Any character other than the separator. -/
  | inSegment
deriving DecidableEq, Repr, Inhabited

/-- Whether a character may stand where the symbol stands. -/
def Symbol.accepts : Symbol → Char → Bool
  | .lit expected, char => char == expected
  | .inSegment, char => char != separator

@[simp] theorem Symbol.accepts_lit (expected char : Char) :
    (Symbol.lit expected).accepts char = true ↔ char = expected := by
  simp [Symbol.accepts]

@[simp] theorem Symbol.accepts_inSegment (char : Char) :
    Symbol.inSegment.accepts char = true ↔ char ≠ separator := by
  simp [Symbol.accepts]

/-- A regular expression. -/
inductive Regex where
  /-- The empty text. -/
  | empty
  /-- One character that the symbol accepts. -/
  | single (symbol : Symbol)
  /-- A text of the first expression followed by one of the second. -/
  | cat (first second : Regex)
  /-- Any number of texts of the body, one after another. -/
  | star (body : Regex)
deriving DecidableEq, Repr, Inhabited

namespace Regex

/-- The expressions of a list, one after another. -/
def sequence : List Regex → Regex
  | [] => .empty
  | first :: rest => .cat first (sequence rest)

@[simp] theorem sequence_nil : sequence [] = .empty := rfl

@[simp] theorem sequence_cons (first : Regex) (rest : List Regex) :
    sequence (first :: rest) = .cat first (sequence rest) := rfl

/-- The texts an expression stands for. -/
inductive Matches : Regex → List Char → Prop
  | empty : Matches .empty []
  | single {symbol : Symbol} {char : Char} (accepted : symbol.accepts char = true) :
      Matches (.single symbol) [char]
  | cat {first second : Regex} {left right : List Char}
      (matchesFirst : Matches first left) (matchesSecond : Matches second right) :
      Matches (.cat first second) (left ++ right)
  | starNil {body : Regex} : Matches (.star body) []
  | starCons {body : Regex} {left right : List Char}
      (matchesBody : Matches body left) (matchesRest : Matches (.star body) right) :
      Matches (.star body) (left ++ right)

/-- Whether an expression matches the empty text. -/
def nullable : Regex → Bool
  | .empty => true
  | .single _ => false
  | .cat first second => first.nullable && second.nullable
  | .star _ => true

end Regex

end PathSets
