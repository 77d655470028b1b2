import PathSets.Glob.Basic

/-!
# From the regular expression back to the glob

The regular expression of a glob, as text, determines the glob.  `Glob.ofRegexText?` reads the
text as one code word for each token; it refuses a text in which two stars come directly before a
separator, since a glob spells that as a single token.
-/

namespace PathSets

namespace Token

/-- The tokens that a run of code words stands for. -/
def ofCodeWords? : List Char → Option (List Token)
  | [] => some []
  | '(' :: '?' :: ':' :: '[' :: '^' :: '/' :: ']' :: '*' :: '/' :: ')' :: '*' :: rest =>
      (ofCodeWords? rest).map (.deep :: ·)
  | '[' :: '^' :: '/' :: ']' :: '*' :: rest => (ofCodeWords? rest).map (.star :: ·)
  | '[' :: '^' :: '/' :: ']' :: rest => (ofCodeWords? rest).map (.one :: ·)
  | '\\' :: char :: rest =>
      if isEscaped char ∧ char ≠ '*' ∧ char ≠ '?' then (ofCodeWords? rest).map (.lit char :: ·)
      else none
  | char :: rest => if isEscaped char then none else (ofCodeWords? rest).map (.lit char :: ·)

/-- Whether two stars come directly before a separator, as tokens of their own. -/
def hasLooseDeep : List Token → Bool
  | .star :: .star :: .lit char :: rest => char == separator || hasLooseDeep rest
  | _ :: rest => hasLooseDeep rest
  | [] => false

end Token

/-- What stands between the marks of a whole text in a written regular expression. -/
def unwrap? (text : List Char) : Option (List Char) :=
  let front := ['(', '?', 's', ':']
  let back := [')', '\\', 'Z']
  if front <+: text ∧ back <:+ text ∧ front.length + back.length ≤ text.length then
    some ((text.drop front.length).take (text.length - front.length - back.length))
  else none

namespace Glob

/-- The glob that a text is the regular expression of, if there is one. -/
def ofRegexText? (text : String) : Option Glob := do
  let tokens ← Token.ofCodeWords? (← unwrap? text.toList)
  if Token.hasLooseDeep tokens then none
  else return ⟨String.ofList (tokens.flatMap Token.spelling)⟩

end Glob
end PathSets
