import Mathlib.Data.List.Infix
import PathSets.Proofs.Glob.Subtrees

/-!
# Paths that every glob has

Choosing one text for each token makes a path.  If every token is given its own spelling, the path
is the glob itself; if every token is given its shortest text, the path has none of the wildcards
and only the separators that are tokens of their own.  No token but two stars and a separator stands
for further separators, and that one for as many as one likes.
-/

namespace PathSets
namespace Token

/-! ## The glob as its own path -/

theorem denotes_spelling (token : Token) : token.Denotes token.spelling := by
  cases token with
  | deep => exact Or.inr ⟨['*', '*'], rfl⟩
  | star => exact (by decide : separator ∉ ['*'])
  | one => exact ⟨'?', by decide, rfl⟩
  | lit char => rfl

/-- Every text is a text of itself as a glob. -/
theorem composes_scan_self (glob : List Char) : Composes (scan glob) glob := by
  have spelled := composes_flatMap fun token (_ : token ∈ scan glob) => token.denotes_spelling
  rwa [flatMap_spelling_scan] at spelled

/-- The shortest text of a token that is read off a glob has no wildcards. -/
theorem not_mem_shortest {token : Token} (readable : token.Readable) :
    '*' ∉ token.shortest ∧ '?' ∉ token.shortest := by
  cases token with
  | deep | star => exact ⟨List.not_mem_nil, List.not_mem_nil⟩
  | one => decide
  | lit char =>
      obtain ⟨notStar, notOne⟩ := readable
      simp [shortest, Ne.symm notStar, Ne.symm notOne]

theorem not_mem_flatMap_shortest_scan (glob : List Char) :
    '*' ∉ (scan glob).flatMap shortest ∧ '?' ∉ (scan glob).flatMap shortest := by
  have each (token : Token) (member : token ∈ scan glob) :
      '*' ∉ token.shortest ∧ '?' ∉ token.shortest :=
    not_mem_shortest (readable_of_mem_scan member)
  simp only [List.mem_flatMap, not_exists, not_and]
  exact ⟨fun token member => (each token member).1, fun token member => (each token member).2⟩

/-! ## Separators -/

theorem count_separator_eq_of_denotes {token : Token} (shallow : token ≠ .deep) {text : List Char}
    (denotes : token.Denotes text) : text.count separator = [token].count (.lit separator) := by
  cases token with
  | deep => exact absurd rfl shallow
  | star => exact List.count_eq_zero.mpr denotes
  | one =>
      obtain ⟨char, inside, rfl⟩ := denotes
      simp [inside]
  | lit char =>
      obtain rfl : text = [char] := denotes
      simp [List.count_singleton]

/-- Without two stars and a separator, the separators of a text are those among the tokens. -/
theorem count_separator_eq_of_composes {tokens : List Token} (shallow : .deep ∉ tokens)
    {text : List Char} (composed : Composes tokens text) :
    text.count separator = tokens.count (.lit separator) := by
  induction tokens generalizing text with
  | nil =>
      obtain rfl : text = [] := composed
      rfl
  | cons token rest ih =>
      obtain ⟨left, right, rfl, denotes, composed⟩ := composed
      rw [List.mem_cons, not_or] at shallow
      rw [List.count_append, count_separator_eq_of_denotes (Ne.symm shallow.1) denotes,
        ih shallow.2 composed, ← List.count_append, List.singleton_append]

theorem count_lit_separator_le_of_composes {tokens : List Token} {text : List Char}
    (composed : Composes tokens text) :
    tokens.count (.lit separator) ≤ text.count separator := by
  induction tokens generalizing text with
  | nil => exact Nat.zero_le _
  | cons token rest ih =>
      obtain ⟨left, right, rfl, denotes, composed⟩ := composed
      have first : [token].count (.lit separator) ≤ left.count separator := by
        by_cases deep : token = .deep
        · subst deep
          exact Nat.zero_le _
        · exact Nat.le_of_eq (count_separator_eq_of_denotes deep denotes).symm
      rw [List.count_append, ← List.singleton_append, List.count_append]
      exact Nat.add_le_add first (ih composed)

theorem count_separator_flatMap_shortest (tokens : List Token) :
    (tokens.flatMap shortest).count separator = tokens.count (.lit separator) := by
  induction tokens with
  | nil => rfl
  | cons token rest ih =>
      rw [List.flatMap_cons, List.count_append, ih, List.count_cons, Nat.add_comm]
      cases token <;> simp [shortest, separator, List.count_singleton]

theorem denotes_deep_replicate (count : Nat) :
    Denotes .deep (List.replicate count separator) := by
  cases count with
  | zero => exact Or.inl rfl
  | succ count => exact Or.inr ⟨List.replicate count separator, List.replicate_succ'⟩

/-- Two stars and a separator leave room for any number of further separators. -/
theorem exists_composes_of_deep_mem {tokens : List Token} (deep : .deep ∈ tokens) (more : Nat) :
    ∃ text, Composes tokens text ∧
      text.count separator = tokens.count (.lit separator) + more := by
  obtain ⟨front, back, rfl⟩ := List.append_of_mem deep
  refine ⟨front.flatMap shortest ++ (List.replicate more separator ++ back.flatMap shortest),
    ?_, ?_⟩
  · rw [composes_append]
    exact ⟨_, _, rfl, composes_shortest front, _, _, rfl, denotes_deep_replicate more,
      composes_shortest back⟩
  · simp only [List.count_append, count_separator_flatMap_shortest, List.count_replicate_self,
      List.count_cons, beq_iff_eq, reduceCtorEq, if_false]
    omega

/-- The numbers of separators that texts of tokens have. -/
theorem exists_composes_count_iff (tokens : List Token) (count : Nat) :
    (∃ text, Composes tokens text ∧ text.count separator = count) ↔
      if .deep ∈ tokens then tokens.count (.lit separator) ≤ count
      else count = tokens.count (.lit separator) := by
  split
  case isTrue deep =>
    constructor
    · rintro ⟨text, composed, rfl⟩
      exact count_lit_separator_le_of_composes composed
    · intro enough
      obtain ⟨more, rfl⟩ := Nat.exists_eq_add_of_le enough
      exact exists_composes_of_deep_mem deep more
  case isFalse shallow =>
    constructor
    · rintro ⟨text, composed, rfl⟩
      exact count_separator_eq_of_composes shallow composed
    · rintro rfl
      exact ⟨_, composes_shortest tokens, count_separator_flatMap_shortest tokens⟩

/-! ## Separators of a glob -/

/-- Whether an index of a glob belongs to two stars and a separator. -/
def InsideDeep (glob : List Char) (index : Nat) : Prop :=
  ∃ start ≤ index, index < start + 3 ∧ deepAt glob start = true

instance (glob : List Char) (index : Nat) : Decidable (InsideDeep glob index) :=
  inferInstanceAs (Decidable (∃ start ≤ index, _))

theorem insideDeep_iff (glob : List Char) (index : Nat) :
    InsideDeep glob index ↔
      deepAt glob index = true ∨
        1 ≤ index ∧ deepAt glob (index - 1) = true ∨
          2 ≤ index ∧ deepAt glob (index - 2) = true := by
  constructor
  · rintro ⟨start, before, near, begins⟩
    obtain rfl | rfl | rfl : index = start ∨ index = start + 1 ∨ index = start + 2 := by omega
    · exact Or.inl begins
    · exact Or.inr (Or.inl ⟨by omega, begins⟩)
    · exact Or.inr (Or.inr ⟨by omega, begins⟩)
  · rintro (begins | ⟨enough, begins⟩ | ⟨enough, begins⟩)
    · exact ⟨index, by omega, by omega, begins⟩
    · exact ⟨index - 1, by omega, by omega, begins⟩
    · exact ⟨index - 2, by omega, by omega, begins⟩

theorem ofChar_eq_lit_separator_iff (char : Char) :
    ofChar char = .lit separator ↔ char = separator := by
  unfold ofChar
  split
  · simp_all [separator]
  · split <;> simp_all [separator]

/-- A separator is a token of its own unless it belongs to two stars and a separator. -/
theorem beginningAt_eq_lit_separator_iff (glob : List Char) (index : Nat) :
    beginningAt glob index = some (.lit separator) ↔
      glob[index]? = some separator ∧ ¬InsideDeep glob index := by
  rw [insideDeep_iff, beginningAt]
  split
  case isTrue begins => simp [begins]
  case isFalse apart =>
    split
    case isTrue inside => simp [inside]
    case isFalse outside =>
      rw [and_iff_left (not_or.mpr ⟨apart, outside⟩)]
      change glob[index]?.map ofChar = _ ↔ _
      simp only [Option.map_eq_some_iff, ofChar_eq_lit_separator_iff, exists_eq_right]

theorem deep_mem_scan_iff (glob : List Char) : .deep ∈ scan glob ↔ spelling .deep <:+: glob := by
  constructor
  · intro deep
    obtain ⟨front, back, scan_eq⟩ := List.append_of_mem deep
    refine ⟨front.flatMap spelling, back.flatMap spelling, ?_⟩
    have spelled := flatMap_spelling_scan glob
    rw [scan_eq, List.flatMap_append, List.flatMap_cons] at spelled
    rw [List.append_assoc, spelled]
  · rintro ⟨left, right, rfl⟩
    rw [scan_append_deep]
    simp

end Token

namespace Glob

/-- The number of separators of a glob that do not belong to two stars and a separator. -/
def ownSeparators (glob : Glob) : Nat :=
  (List.range glob.source.length).countP fun index =>
    decide (glob.source.toList[index]? = some separator ∧
      ¬Token.InsideDeep glob.source.toList index)

theorem count_lit_separator_scan (glob : Glob) :
    (Token.scan glob.source.toList).count (.lit separator) = glob.ownSeparators := by
  rw [Token.scan_eq_byOccurrence, Token.byOccurrence, List.count_filterMap, ownSeparators,
    String.length_toList]
  congr 1
  funext index
  rw [Bool.eq_iff_iff, beq_iff_eq, decide_eq_true_iff, Token.beginningAt_eq_lit_separator_iff]

/-- Wildcards do not cross separators: the paths of a glob have as many separators as the glob, if
those of two stars and a separator are left out.  If the glob has two stars and a separator, its
paths have that many or more, and every such number occurs. -/
theorem exists_accepts_count_separator_iff (glob : Glob) (count : Nat) :
    (∃ path : String, glob.accepts path = true ∧ path.toList.count separator = count) ↔
      if "**/".toList <:+: glob.source.toList then glob.ownSeparators ≤ count
      else count = glob.ownSeparators := by
  have deep_iff : .deep ∈ Token.scan glob.source.toList ↔ "**/".toList <:+: glob.source.toList :=
    Token.deep_mem_scan_iff glob.source.toList
  have counts := Token.exists_composes_count_iff (Token.scan glob.source.toList) count
  rw [glob.count_lit_separator_scan] at counts
  simp only [accepts_iff_composes, ← deep_iff, ← counts]
  constructor
  · rintro ⟨path, composed, count_eq⟩
    exact ⟨path.toList, composed, count_eq⟩
  · rintro ⟨text, composed, count_eq⟩
    exact ⟨String.ofList text, by simpa using composed, by simpa using count_eq⟩

/-- The separator behind two stars does not count, and one behind a single star does. -/
example : (⟨"/a**/*/b"⟩ : Glob).ownSeparators = 2 := by
  decide

/-- Every glob holds of itself as a path, and of nothing else exactly if it has no wildcards. -/
theorem accepts_source_and_forall_accepts_iff_eq (glob : Glob) :
    glob.accepts glob.source = true ∧
      ((∀ path : String, glob.accepts path = true ↔ path = glob.source) ↔
        '*' ∉ glob.source.toList ∧ '?' ∉ glob.source.toList) := by
  refine ⟨?_, ?_, ?_⟩
  · rw [accepts_iff_composes]
    exact Token.composes_scan_self glob.source.toList
  · intro only
    have shortest_eq : String.ofList ((Token.scan glob.source.toList).flatMap Token.shortest) =
        glob.source := by
      rw [← only, accepts_iff_composes, String.toList_ofList]
      exact Token.composes_shortest _
    rw [← String.toList_inj, String.toList_ofList] at shortest_eq
    have plain := Token.not_mem_flatMap_shortest_scan glob.source.toList
    rwa [shortest_eq] at plain
  · rintro ⟨noStar, noOne⟩ path
    exact accepts_literal_iff noStar noOne path

end Glob
end PathSets
