/-!
# Quoted text

A text between quotes, with everything that a reader could not see or would take for the closing
quote written as an escape.  Which characters beyond ASCII can be seen is a parameter.
`Quoted.read?` reads a quoted text back, whatever that parameter was.
-/

namespace PathSets
namespace Quoted

/-- The last `width` hexadecimal digits of a number. -/
def hex : Nat → Nat → List Char
  | 0, _ => []
  | width + 1, number => hex width (number / 16) ++ [Nat.digitChar (number % 16)]

/-- The quote put around a text: a single one, unless the text has single quotes and no double
ones. -/
def delimiter (text : List Char) : Char :=
  if '\'' ∈ text ∧ '"' ∉ text then '"' else '\''

/-- How one character is written between quotes. -/
def escape (visible : Char → Bool) (quote char : Char) : List Char :=
  if char = quote ∨ char = '\\' then ['\\', char]
  else if char = '\n' then ['\\', 'n']
  else if char = '\r' then ['\\', 'r']
  else if char = '\t' then ['\\', 't']
  else if ' ' ≤ char ∧ char ≤ '~' then [char]
  else if '\x7f' < char ∧ visible char then [char]
  else if char.toNat < 0x100 then '\\' :: 'x' :: hex 2 char.toNat
  else if char.toNat < 0x10000 then '\\' :: 'u' :: hex 4 char.toNat
  else '\\' :: 'U' :: hex 8 char.toNat

/-- The quoted form of a text. -/
def encode (visible : Char → Bool) (text : List Char) : List Char :=
  let quote := delimiter text
  quote :: text.flatMap (escape visible quote) ++ [quote]

/-- The value of a hexadecimal digit in lower case. -/
def digit? (char : Char) : Option Nat :=
  if '0' ≤ char ∧ char ≤ '9' then some (char.toNat - '0'.toNat)
  else if 'a' ≤ char ∧ char ≤ 'f' then some (char.toNat - 'a'.toNat + 10)
  else none

/-- The number that hexadecimal digits write, after the digits of `number`. -/
def hexValue? (number : Nat) : List Char → Option Nat
  | [] => some number
  | char :: rest => do hexValue? (16 * number + (← digit? char)) rest

/-- The character with a hexadecimal code. -/
def hexChar? (digits : List Char) : Option Char :=
  (hexValue? 0 digits).map Char.ofNat

/-- Put a character that may be missing before a text that was read. -/
def prepend (char : Option Char) (read : Option (List Char × List Char)) :
    Option (List Char × List Char) := do
  let first ← char
  let (text, rest) ← read
  return (first :: text, rest)

/-- Read up to the closing quote; the result is the text and what stands behind the quote. -/
def readUntil (quote : Char) : List Char → Option (List Char × List Char)
  | [] => none
  | '\\' :: 'n' :: rest => prepend (some '\n') (readUntil quote rest)
  | '\\' :: 'r' :: rest => prepend (some '\r') (readUntil quote rest)
  | '\\' :: 't' :: rest => prepend (some '\t') (readUntil quote rest)
  | '\\' :: 'x' :: a :: b :: rest => prepend (hexChar? [a, b]) (readUntil quote rest)
  | '\\' :: 'u' :: a :: b :: c :: d :: rest =>
      prepend (hexChar? [a, b, c, d]) (readUntil quote rest)
  | '\\' :: 'U' :: a :: b :: c :: d :: e :: f :: g :: h :: rest =>
      prepend (hexChar? [a, b, c, d, e, f, g, h]) (readUntil quote rest)
  | '\\' :: char :: rest =>
      if char = quote ∨ char = '\\' then prepend (some char) (readUntil quote rest) else none
  | char :: rest =>
      if char = quote then some ([], rest)
      else if char = '\\' then none
      else prepend (some char) (readUntil quote rest)

/-- Read a quoted text at the front; the result is the text and what stands behind it. -/
def read? : List Char → Option (List Char × List Char)
  | '\'' :: rest => readUntil '\'' rest
  | '"' :: rest => readUntil '"' rest
  | _ => none

end Quoted
end PathSets
