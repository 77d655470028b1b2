import PathSets.PathSet.Basic

/-!
# Path sets as text

The structure of a set in writing.  Which characters beyond ASCII stand in quoted globs as they
are is a parameter of `PathSet.render`; `PathSet.shown` uses the printable ones.
-/

namespace PathSets

/-- Texts with a comma and a space between neighbours. -/
def commaSeparated : List (List Char) → List Char
  | [] => []
  | [text] => text
  | text :: rest => text ++ ',' :: ' ' :: commaSeparated rest

namespace PathSet

variable {ι : Type}

/-- A list of texts between brackets. -/
def bracketed (texts : List (List Char)) : List Char :=
  '[' :: commaSeparated texts ++ [']']

mutual

/-- A set in writing. -/
def render (visible : Char → Bool) : PathSet ι → List Char
  | .empty _ => "EmptySet()".toList
  | .blank _ => "<MatchableSet>".toList
  | .single _ glob => "FileGlob(".toList ++ Quoted.encode visible glob.source.toList ++ [')']
  | .anyOf _ globs =>
      "FileGlobSet(".toList
        ++ bracketed (globs.map fun glob => Quoted.encode visible glob.source.toList) ++ [')']
  | .union _ members => "Union(".toList ++ bracketed (renderAll visible members) ++ [')']
  | .difference _ included excluded =>
      "Complement(includes=".toList ++ included.render visible ++ ", excludes=".toList
        ++ excluded.render visible ++ [')']

/-- The sets of a list in writing. -/
def renderAll (visible : Char → Bool) : List (PathSet ι) → List (List Char)
  | [] => []
  | set :: rest => set.render visible :: renderAll visible rest

end

section Equations

variable (visible : Char → Bool) (tag : ι)

theorem renderAll_eq_map (sets : List (PathSet ι)) :
    renderAll visible sets = sets.map (render visible) := by
  induction sets with
  | nil => rfl
  | cons set rest ih => exact congrArg (set.render visible :: ·) ih

theorem render_empty : (PathSet.empty tag).render visible = "EmptySet()".toList := rfl

theorem render_blank : (PathSet.blank tag).render visible = "<MatchableSet>".toList := rfl

theorem render_single (glob : Glob) :
    (PathSet.single tag glob).render visible =
      "FileGlob(".toList ++ (Quoted.encode visible glob.source.toList ++ [')']) :=
  List.append_assoc ..

theorem render_anyOf (globs : List Glob) :
    (PathSet.anyOf tag globs).render visible =
      "FileGlobSet(".toList ++
        (bracketed (globs.map fun glob => Quoted.encode visible glob.source.toList) ++ [')']) :=
  List.append_assoc ..

theorem render_union (members : List (PathSet ι)) :
    (PathSet.union tag members).render visible =
      "Union(".toList ++ (bracketed (members.map (render visible)) ++ [')']) := by
  rw [← renderAll_eq_map, ← List.append_assoc]
  rfl

theorem render_difference (included excluded : PathSet ι) :
    (PathSet.difference tag included excluded).render visible =
      "Complement(includes=".toList ++ (included.render visible ++
        (", excludes=".toList ++ (excluded.render visible ++ [')']))) := by
  simp only [← List.append_assoc]
  rfl

end Equations

/-- A set as it is shown to a reader. -/
def shown (set : PathSet ι) : String :=
  String.ofList (set.render isPrintable)

/-- A set as plain text: a glob gives its regular expression, any other set what is shown of it. -/
def plain : PathSet ι → String
  | .single _ glob => glob.regexText
  | set => set.shown

end PathSet
end PathSets
