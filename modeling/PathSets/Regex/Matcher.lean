import PathSets.Regex.Basic

/-!
# Matching by moving marks

A marked expression carries a mark on every symbol that the text read so far may have ended at.
Reading one more character moves all marks at once, so a text is decided in one pass.  A part
without marks is dormant: it is kept as a plain expression, and a character that cannot enter it
leaves it alone.
-/

namespace PathSets

/-- A regular expression in which some symbols are marked. -/
inductive MarkedRegex where
  /-- An expression without marks. -/
  | dormant (regex : Regex)
  /-- A symbol with a mark. -/
  | marked (symbol : Symbol)
  | cat (first second : MarkedRegex)
  | star (body : MarkedRegex)
deriving Repr, Inhabited

namespace MarkedRegex

/-- The expression without its marks. -/
def toRegex : MarkedRegex → Regex
  | .dormant regex => regex
  | .marked symbol => .single symbol
  | .cat first second => .cat first.toRegex second.toRegex
  | .star body => .star body.toRegex

/-- Whether the expression matches the empty text, marks aside. -/
def nullable : MarkedRegex → Bool
  | .dormant regex => regex.nullable
  | .marked _ => false
  | .cat first second => first.nullable && second.nullable
  | .star _ => true

theorem nullable_toRegex (marked : MarkedRegex) : marked.toRegex.nullable = marked.nullable := by
  induction marked with
  | dormant => rfl
  | marked => rfl
  | cat first second first_ih second_ih =>
      simp [toRegex, nullable, Regex.nullable, first_ih, second_ih]
  | star => rfl

/-- Whether some mark stands where the whole expression may end. -/
def exits : MarkedRegex → Bool
  | .dormant _ => false
  | .marked _ => true
  | .cat first second => first.exits && second.nullable || second.exits
  | .star body => body.exits

/-- One expression after another, dormant if both are. -/
def joined : MarkedRegex → MarkedRegex → MarkedRegex
  | .dormant first, .dormant second => .dormant (.cat first second)
  | first, second => .cat first second

/-- Any number of repetitions of an expression, dormant if the expression is. -/
def starred : MarkedRegex → MarkedRegex
  | .dormant body => .dormant (.star body)
  | body => .star body

@[simp] theorem toRegex_joined (first second : MarkedRegex) :
    (joined first second).toRegex = .cat first.toRegex second.toRegex := by
  cases first <;> cases second <;> rfl

@[simp] theorem toRegex_starred (body : MarkedRegex) :
    (starred body).toRegex = .star body.toRegex := by
  cases body <;> rfl

@[simp] theorem exits_joined (first second : MarkedRegex) :
    (joined first second).exits = (first.exits && second.nullable || second.exits) := by
  cases first <;> cases second <;> rfl

@[simp] theorem exits_starred (body : MarkedRegex) : (starred body).exits = body.exits := by
  cases body <;> rfl

/-- The marks after the first character of a text. -/
def start (char : Char) : Regex → MarkedRegex
  | .empty => .dormant .empty
  | .single symbol =>
      if symbol.accepts char then .marked symbol else .dormant (.single symbol)
  | .cat first second =>
      joined (start char first) (if first.nullable then start char second else .dormant second)
  | .star body => starred (start char body)

/-- Move every mark over one more character; `enters` tells whether the expression may also start
at that character. -/
def shift (enters : Bool) (char : Char) : MarkedRegex → MarkedRegex
  | .dormant regex => if enters then start char regex else .dormant regex
  | .marked symbol =>
      if enters && symbol.accepts char then .marked symbol else .dormant (.single symbol)
  | .cat first second =>
      joined (first.shift enters char)
        (second.shift (enters && first.nullable || first.exits) char)
  | .star body => starred (body.shift (enters || body.exits) char)

@[simp] theorem toRegex_start (char : Char) (regex : Regex) :
    (start char regex).toRegex = regex := by
  induction regex with
  | empty => rfl
  | single symbol => by_cases accepted : symbol.accepts char <;> simp [start, accepted, toRegex]
  | cat first second first_ih second_ih =>
      by_cases optional : first.nullable <;> simp [start, optional, toRegex, first_ih, second_ih]
  | star body ih => simp [start, ih]

@[simp] theorem toRegex_shift (enters : Bool) (char : Char) (marked : MarkedRegex) :
    (marked.shift enters char).toRegex = marked.toRegex := by
  induction marked generalizing enters with
  | dormant regex => cases enters <;> simp [shift, toRegex]
  | marked symbol =>
      by_cases kept : enters && symbol.accepts char <;> simp [shift, kept, toRegex]
  | cat first second first_ih second_ih => simp [shift, toRegex, first_ih, second_ih]
  | star body ih => simp [shift, toRegex, ih]

/-- Leave out what is dormant in front: once a text has moved on behind it, no mark comes back. -/
def prune : MarkedRegex → MarkedRegex
  | .cat (.dormant _) second => second.prune
  | rest => rest

/-- Move the marks over a text that continues what was read before. -/
def advance (marked : MarkedRegex) : List Char → MarkedRegex
  | [] => marked
  | char :: rest => (marked.shift false char).prune.advance rest

end MarkedRegex

/-- Whether an expression matches the whole of a text. -/
def Regex.accepts (regex : Regex) : List Char → Bool
  | [] => regex.nullable
  | char :: rest => ((MarkedRegex.start char regex).advance rest).exits

end PathSets
