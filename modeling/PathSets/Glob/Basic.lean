import PathSets.Glob.Token
import PathSets.Regex.Matcher
import PathSets.Regex.Printer

/-!
# Globs

A glob is known by its source text: two globs are equal exactly when their sources are.  It is
compiled to a regular expression, which decides paths and has a written form of its own; the public
name of that form, `Glob.regexText`, is `translate`.

Characters are Unicode scalar values, so texts with lone surrogates are left out.
-/

namespace PathSets

/-- A glob over paths. -/
structure Glob where
  /-- The text the glob was made from. -/
  source : String
deriving DecidableEq, Repr, Inhabited

namespace Glob

instance : Hashable Glob where
  hash glob := hash glob.source

instance : LawfulHashable Glob where
  hash_eq left right equal := by
    rw [eq_of_beq equal]

/-- The tokens of the source. -/
def tokens (glob : Glob) : List Token :=
  Token.scan glob.source.toList

/-- The regular expression that holds of the paths of the glob. -/
def regex (glob : Glob) : Regex :=
  .sequence (glob.tokens.map Token.regex)

/-- The written form of the regular expression. -/
def regexText (glob : Glob) : String :=
  String.ofList glob.regex.anchoredText

/-- Whether a path, taken whole, belongs to the glob. -/
def accepts (glob : Glob) (path : String) : Bool :=
  glob.regex.accepts path.toList

end Glob

end PathSets
