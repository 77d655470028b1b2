import PathSets.PathSet.Printer

/-!
# Reading path sets

`PathSet.read?` reads the written form of a set back to its structure, whichever characters were
taken for printable when it was written.
-/

namespace PathSets

/-- What follows a word at the front of a text. -/
def afterWord? (word : String) (text : List Char) : Option (List Char) :=
  if word.toList <+: text then some (text.drop word.toList.length) else none

section Items

variable {α : Type} (item : List Char → Option (α × List Char))

/-- Read the items behind the first one of a list, at most so many, and the closing bracket. -/
def readRest : Nat → List Char → Option (List α × List Char)
  | 0, _ => none
  | fuel + 1, text =>
      match afterWord? ", " text with
      | none => (afterWord? "]" text).map fun rest => ([], rest)
      | some text => do
          let (found, rest) ← item text
          let (others, rest) ← readRest fuel rest
          return (found :: others, rest)

/-- Read the items of a list between brackets, at most so many behind the first one. -/
def readBracketed (fuel : Nat) (text : List Char) : Option (List α × List Char) := do
  let text ← afterWord? "[" text
  match afterWord? "]" text with
  | some rest => return ([], rest)
  | none => do
      let (found, rest) ← item text
      let (others, rest) ← readRest item fuel rest
      return (found :: others, rest)

end Items

namespace PathSet

/-- Read a quoted glob at the front of a text. -/
def readGlob (text : List Char) : Option (Glob × List Char) := do
  let (source, rest) ← Quoted.read? text
  return (⟨String.ofList source⟩, rest)

/-- The words that the written forms of sets begin with. -/
def headWords : List (Kind × String) :=
  [(.emptySet, "EmptySet()"), (.blankSet, "<MatchableSet>"), (.glob, "FileGlob("),
    (.globSet, "FileGlobSet("), (.union, "Union("), (.difference, "Complement(includes=")]

/-- The kind of set that the word at the front of a text tells, and what follows the word. -/
def readKind? (text : List Char) : Option (Kind × List Char) :=
  headWords.findSome? fun (kind, word) => (afterWord? word text).map (kind, ·)

/-- Read what follows the word for a kind of sets, with `front` for reading a set at the front of a
text and with at most so many items behind the first one of a list. -/
def readParts (front : List Char → Option (PathSet Unit × List Char)) (fuel : Nat) :
    Kind → List Char → Option (PathSet Unit × List Char)
  | .emptySet, rest => some (.empty (), rest)
  | .blankSet, rest => some (.blank (), rest)
  | .glob, rest => do
      let (glob, rest) ← readGlob rest
      return (.single () glob, ← afterWord? ")" rest)
  | .globSet, rest => do
      let (globs, rest) ← readBracketed readGlob fuel rest
      return (.anyOf () globs, ← afterWord? ")" rest)
  | .union, rest => do
      let (members, rest) ← readBracketed front fuel rest
      return (.union () members, ← afterWord? ")" rest)
  | .difference, rest => do
      let (included, rest) ← front rest
      let (excluded, rest) ← front (← afterWord? ", excludes=" rest)
      return (.difference () included excluded, ← afterWord? ")" rest)
  | _, _ => none

/-- Read a set at the front of a text, within a number of steps; the result is its structure and
what stands behind it. -/
def readFront : Nat → List Char → Option (PathSet Unit × List Char)
  | 0, _ => none
  | fuel + 1, text => do
      let (kind, rest) ← readKind? text
      readParts (readFront fuel) fuel kind rest

/-- The structure of the set that a text writes. -/
def read? (text : List Char) : Option (PathSet Unit) :=
  match readFront (text.length + 1) text with
  | some (set, []) => some set
  | _ => none

end PathSet
end PathSets
