import PathSets.Regex.Basic
import PathSets.Regex.Lexeme

/-!
# Writing and reading regular expressions

`Regex.text` writes an expression, with a group wherever a repetition has more than one symbol
under it.  `Regex.anchoredText` wraps the result so that it holds of whole texts only, and
`Regex.read?` reads such a text back, keeping the items of every open group on a stack.
-/

namespace PathSets

/-- The sign for one symbol. -/
def Symbol.lexeme : Symbol → Lexeme
  | .lit char => .lit char
  | .inSegment => .inSegment

namespace Regex

/-- The signs of an expression. -/
def lexemes : Regex → List Lexeme
  | .empty => []
  | .single symbol => [symbol.lexeme]
  | .cat first second => first.lexemes ++ second.lexemes
  | .star (.single symbol) => [symbol.lexeme, .star]
  | .star body => .openGroup :: body.lexemes ++ [.close, .star]

/-- The written form of an expression, without what ties it to whole texts. -/
def text (regex : Regex) : List Char :=
  regex.lexemes.flatMap Lexeme.text

/-- The signs of an expression that holds of whole texts only. -/
def anchoredLexemes (regex : Regex) : List Lexeme :=
  .openAll :: regex.lexemes ++ [.close, .textEnd]

/-- The written form of an expression that holds of whole texts only. -/
def anchoredText (regex : Regex) : List Char :=
  regex.anchoredLexemes.flatMap Lexeme.text

/-- Read the signs after the opening one.  `enclosing` holds the items of the groups around the
current one, innermost first, and `items` those of the current group, last first.  A repetition
has to stand directly behind one symbol or one group. -/
def readItems (enclosing : List (List Regex)) (items : List Regex) : List Lexeme → Option Regex
  | .lit char :: .star :: rest =>
      readItems enclosing (.star (.single (.lit char)) :: items) rest
  | .lit char :: rest => readItems enclosing (.single (.lit char) :: items) rest
  | .inSegment :: .star :: rest =>
      readItems enclosing (.star (.single .inSegment) :: items) rest
  | .inSegment :: rest => readItems enclosing (.single .inSegment :: items) rest
  | .openGroup :: rest => readItems (items :: enclosing) [] rest
  | [.close, .textEnd] =>
      match enclosing with
      | [] => some (sequence items.reverse)
      | _ :: _ => none
  | .close :: .star :: rest =>
      match enclosing with
      | [] => none
      | outer :: further => readItems further (.star (sequence items.reverse) :: outer) rest
  | .close :: rest =>
      match enclosing with
      | [] => none
      | outer :: further => readItems further (sequence items.reverse :: outer) rest
  | _ => none

/-- The expression that a text writes, or nothing when the text is not well formed. -/
def read? (text : List Char) : Option Regex :=
  match Lexeme.scan text with
  | some (.openAll :: rest) => readItems [] [] rest
  | _ => none

end Regex

end PathSets
