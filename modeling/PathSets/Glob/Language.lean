import PathSets.Glob.Basic

/-!
# The language of a glob

Which paths a glob stands for, said without scanning it and without regular expressions.  The
tokens are found by where two stars and a separator occur in the glob; each token denotes a set of
texts, and a path belongs to the glob when it is made of one text for each token, in order.
-/

namespace PathSets

namespace Token

/-- Whether two stars and a separator occur in a glob at an index. -/
def deepAt (glob : List Char) (index : Nat) : Bool :=
  (glob.drop index).take 3 == spelling .deep

/-- The token that begins at an index of a glob, if one does: none begins inside an occurrence of
two stars and a separator. -/
def beginningAt (glob : List Char) (index : Nat) : Option Token :=
  if deepAt glob index then some .deep
  else if 1 ≤ index ∧ deepAt glob (index - 1) ∨ 2 ≤ index ∧ deepAt glob (index - 2) then none
  else glob[index]?.map fun char =>
    if char = '*' then .star else if char = '?' then .one else .lit char

/-- The tokens of a glob, by where they begin. -/
def byOccurrence (glob : List Char) : List Token :=
  (List.range glob.length).filterMap (beginningAt glob)

/-- The texts that a token denotes. -/
def Denotes : Token → List Char → Prop
  | .deep, text => text = [] ∨ ∃ front, text = front ++ [separator]
  | .star, text => separator ∉ text
  | .one, text => ∃ char, char ≠ separator ∧ text = [char]
  | .lit char, text => text = [char]

/-- The texts that are made of one text for each token, in order. -/
def Composes : List Token → List Char → Prop
  | [], text => text = []
  | token :: rest, text =>
      ∃ left right, text = left ++ right ∧ token.Denotes left ∧ Composes rest right

@[simp] theorem composes_nil (text : List Char) : Composes [] text ↔ text = [] := Iff.rfl

@[simp] theorem composes_cons (token : Token) (rest : List Token) (text : List Char) :
    Composes (token :: rest) text ↔
      ∃ left right, text = left ++ right ∧ token.Denotes left ∧ Composes rest right := Iff.rfl

theorem composes_singleton_iff (token : Token) (text : List Char) :
    Composes [token] text ↔ token.Denotes text := by
  constructor
  · rintro ⟨only, _, rfl, denotes, rfl⟩
    rwa [List.append_nil]
  · intro denotes
    exact ⟨text, [], (List.append_nil text).symm, denotes, rfl⟩

theorem composes_append (first second : List Token) (text : List Char) :
    Composes (first ++ second) text ↔
      ∃ left right, text = left ++ right ∧ Composes first left ∧ Composes second right := by
  induction first generalizing text with
  | nil =>
      constructor
      · intro composes
        exact ⟨[], text, rfl, rfl, composes⟩
      · rintro ⟨_, _, rfl, rfl, composes⟩
        exact composes
  | cons token rest ih =>
      simp only [List.cons_append, composes_cons, ih]
      constructor
      · rintro ⟨front, _, rfl, denotes, middle, back, rfl, inside, outside⟩
        exact ⟨front ++ middle, back, by simp, ⟨front, middle, rfl, denotes, inside⟩, outside⟩
      · rintro ⟨_, back, rfl, ⟨front, middle, rfl, denotes, inside⟩, outside⟩
        exact ⟨front, middle ++ back, by simp, denotes, middle, back, rfl, inside, outside⟩

/-- Choosing one text for each token makes a text. -/
theorem composes_flatMap {choose : Token → List Char} {tokens : List Token}
    (each : ∀ token ∈ tokens, token.Denotes (choose token)) :
    Composes tokens (tokens.flatMap choose) := by
  induction tokens with
  | nil => rfl
  | cons token rest ih =>
      rw [List.forall_mem_cons] at each
      exact ⟨choose token, rest.flatMap choose, rfl, each.1, ih each.2⟩

end Token

namespace Glob

/-- The paths that a glob stands for. -/
def Language (glob : Glob) (path : String) : Prop :=
  Token.Composes (Token.byOccurrence glob.source.toList) path.toList

instance : Membership String Glob where
  mem glob path := glob.Language path

end Glob
end PathSets
