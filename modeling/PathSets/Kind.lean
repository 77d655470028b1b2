/-!
# Kinds of values

What kind of value an argument is, and the words that messages use for it.
-/

namespace PathSets

/-- A kind of values that is not one of those that have a constructor of their own. -/
structure Species where
  /-- The word for the kind. -/
  label : String
  /-- The word for the kind with the place where it comes from. -/
  fullLabel : String
  /-- Whether values of the kind show their bytes, so that they are taken for bytes where a text is
  expected. -/
  binary : Bool
deriving DecidableEq, Repr, Inhabited

/-- The kind of a value. -/
inductive Kind where
  | none
  | bool
  | int
  | float
  | text
  | bytes
  | byteArray
  | list
  | tuple
  | set
  | dict
  | range
  | iterator
  | level
  | emptySet
  | blankSet
  | glob
  | globSet
  | union
  | difference
  /-- Any other kind. -/
  | other (species : Species)
deriving DecidableEq, Repr, Inhabited

namespace Kind

/-- The word for a kind. -/
def label : Kind → String
  | .none => "NoneType"
  | .bool => "bool"
  | .int => "int"
  | .float => "float"
  | .text => "str"
  | .bytes => "bytes"
  | .byteArray => "bytearray"
  | .list => "list"
  | .tuple => "tuple"
  | .set => "set"
  | .dict => "dict"
  | .range => "range"
  | .iterator => "generator"
  | .level => "LogLevel"
  | .emptySet => "EmptySet"
  | .blankSet => "MatchableSet"
  | .glob => "FileGlob"
  | .globSet => "FileGlobSet"
  | .union => "Union"
  | .difference => "Complement"
  | .other species => species.label

/-- The word for a kind in messages that are not the library's own. -/
def fullLabel : Kind → String
  | .other species => species.fullLabel
  | kind => kind.label

/-- Whether values of a kind are taken for bytes where a text is expected. -/
def isBinary : Kind → Bool
  | .bytes | .byteArray => true
  | .other species => species.binary
  | _ => false

end Kind
end PathSets
