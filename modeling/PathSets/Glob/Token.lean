import PathSets.Regex.Basic

/-!
# Globs as tokens

A glob is read from left to right as a list of tokens, the longest token first at each place.
Every text is a glob.
-/

namespace PathSets

/-- One token of a glob. -/
inductive Token where
  /-- Two stars and a separator: any number of whole segments. -/
  | deep
  /-- A star: any run of characters inside one segment. -/
  | star
  /-- A question mark: one character of a segment. -/
  | one
  /-- Any other character: itself. -/
  | lit (char : Char)
deriving DecidableEq, Repr, Inhabited

namespace Token

/-- The tokens of a glob. -/
def scan : List Char → List Token
  | '*' :: '*' :: '/' :: rest => .deep :: scan rest
  | '*' :: rest => .star :: scan rest
  | '?' :: rest => .one :: scan rest
  | char :: rest => .lit char :: scan rest
  | [] => []

/-- How a token is written in a glob. -/
def spelling : Token → List Char
  | .deep => ['*', '*', separator]
  | .star => ['*']
  | .one => ['?']
  | .lit char => [char]

/-- The regular expression for the texts of a token. -/
def regex : Token → Regex
  | .deep => .star (.sequence [.star (.single .inSegment), .single (.lit separator)])
  | .star => .star (.single .inSegment)
  | .one => .single .inSegment
  | .lit char => .single (.lit char)

end Token

end PathSets
