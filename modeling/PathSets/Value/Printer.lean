import PathSets.Decimal.Layout
import PathSets.PathSet.Printer
import PathSets.Value.Basic

/-!
# Values as text

`Value.shown` is the form that tells a value's kind, with texts in quotes; `Value.plain` gives
texts as they are and globs by their regular expressions.
-/

namespace PathSets

/-- One byte between quotes; `escaped` are the characters that need a backslash. -/
def showByte (escaped : List Char) (byte : UInt8) : List Char :=
  let char := Char.ofNat byte.toNat
  if char ∈ escaped then ['\\', char]
  else if char = '\n' then ['\\', 'n']
  else if char = '\r' then ['\\', 'r']
  else if char = '\t' then ['\\', 't']
  else if ' ' ≤ char ∧ char ≤ '~' then [char]
  else '\\' :: 'x' :: Quoted.hex 2 byte.toNat

/-- Bytes between quotes, chosen as for texts; `always` has a backslash whatever the quote. -/
def showBytes (always : List Char) (data : List UInt8) : List Char :=
  let quote := Quoted.delimiter (data.map fun byte => Char.ofNat byte.toNat)
  'b' :: quote :: data.flatMap (showByte (quote :: '\\' :: always)) ++ [quote]

/-- A level as it is shown: its name and its rank. -/
def Level.shown (level : Level) : String :=
  "<LogLevel." ++ level.name ++ ": " ++ Int.repr level.rank ++ ">"

/-- A datum in writing. -/
def Datum.render : Datum → List Char
  | .none => "None".toList
  | .bool true => "True".toList
  | .bool false => "False".toList
  | .int number => (Int.repr number).toList
  | .float number => (DecimalLayout.standard.double number).toList
  | .text content => Quoted.encode isPrintable content.toList
  | .level named => named.shown.toList
  | .bytes data => showBytes [] data
  | .byteArray data => "bytearray(".toList ++ showBytes ['\''] data ++ [')']
  | .range bound => "range(0, ".toList ++ (Int.repr bound).toList ++ [')']

namespace Value

/-- A tuple in writing; a single member is followed by a comma. -/
def tupled : List (List Char) → List Char
  | [item] => '(' :: item ++ [',', ')']
  | items => '(' :: commaSeparated items ++ [')']

/-- A set in writing; the empty one has a name, since braces alone stand for a dictionary. -/
def braced : List (List Char) → List Char
  | [] => "set()".toList
  | items => '\x7b' :: commaSeparated items ++ ['\x7d']

mutual

/-- A value in writing. -/
def render : Value → List Char
  | .datum _ held => held.render
  | .list _ items => PathSet.bracketed (renderAll items)
  | .tuple _ items => tupled (renderAll items)
  | .set _ items => braced (renderAll items)
  | .dict _ entries => '\x7b' :: commaSeparated (renderEntries entries) ++ ['\x7d']
  | .iterator _ => "<generator>".toList
  | .object _ _ shown | .collection _ _ shown _ => shown.toList
  | .pathSet paths => paths.render isPrintable
  | .looseUnion _ members => "Union(".toList ++ PathSet.bracketed (renderAll members) ++ [')']
  | .looseDifference _ included excluded =>
      "Complement(includes=".toList ++ included.render ++ ", excludes=".toList ++ excluded.render
        ++ [')']

/-- The values of a list in writing. -/
def renderAll : List Value → List (List Char)
  | [] => []
  | value :: rest => value.render :: renderAll rest

/-- The entries of a dictionary in writing. -/
def renderEntries : List (Value × Value) → List (List Char)
  | [] => []
  | (key, value) :: rest => (key.render ++ ':' :: ' ' :: value.render) :: renderEntries rest

end

/-- A value as it is shown to a reader. -/
def shown (value : Value) : String :=
  String.ofList value.render

/-- Values as they are shown to a reader together. -/
def shownAll (values : List Value) : String :=
  String.ofList (PathSet.bracketed (renderAll values))

/-- A value as plain text. -/
def plain : Value → String
  | .datum _ (.text content) => content
  | .datum _ (.level named) => Int.repr named.rank
  | .pathSet paths => paths.plain
  | value => value.shown

end Value
end PathSets
