import PathSets.Proofs.Glob.Decoding
import PathSets.Proofs.Glob.Language

/-!
# One glob behind another

Two globs written one behind the other have the tokens of both, unless two stars and a separator
lie across the place where they meet.  With the tokens, the regular expressions come one behind the
other as well.  Where two stars and a separator are cut, the glob of both holds of more than that:
its stars and its separator become one token, which still stands for what the parts stood for.
-/

namespace PathSets
namespace Token

/-! ## Scanning two texts -/

/-- Whether two stars and a separator lie across the place where two texts meet: they begin in the
first text and end in the second. -/
def DeepAcross (left right : List Char) : Prop :=
  ∃ index, deepAt (left ++ right) index = true ∧ index < left.length ∧ left.length < index + 3

theorem not_deepAcross_nil (right : List Char) : ¬DeepAcross [] right := by
  rintro ⟨index, -, inside, -⟩
  exact absurd inside (Nat.not_lt_zero index)

theorem deepAcross_cons_iff (char : Char) (rest right : List Char) :
    DeepAcross (char :: rest) right ↔
      deepAt (char :: rest ++ right) 0 = true ∧ rest.length < 2 ∨ DeepAcross rest right := by
  constructor
  · rintro ⟨index, begins, inside, ends⟩
    cases index with
    | zero => exact Or.inl ⟨begins, Nat.lt_of_succ_lt_succ ends⟩
    | succ index =>
        exact Or.inr ⟨index, begins, Nat.lt_of_succ_lt_succ inside, Nat.lt_of_succ_lt_succ ends⟩
  · rintro (⟨begins, short⟩ | ⟨index, begins, inside, ends⟩)
    · exact ⟨0, begins, Nat.zero_lt_succ _, Nat.succ_lt_succ short⟩
    · exact ⟨index + 1, begins, Nat.succ_lt_succ inside, Nat.succ_lt_succ ends⟩

/-- Where two stars and a separator are cut, the first text ends in the stars that come before the
cut, and the second one begins with what comes behind it. -/
theorem deepAcross_iff (left right : List Char) :
    DeepAcross left right ↔
      ['*', '*'] <:+ left ∧ ['/'] <+: right ∨ ['*'] <:+ left ∧ ['*', '/'] <+: right := by
  induction left with
  | nil => simp [not_deepAcross_nil]
  | cons char rest ih =>
      have first : deepAt (char :: rest ++ right) 0 = true ∧ rest.length < 2 ↔
          ['*', '*'] = char :: rest ∧ ['/'] <+: right ∨
            ['*'] = char :: rest ∧ ['*', '/'] <+: right := by
        rw [deepAt_zero_iff]
        match rest with
        | [] => simp [List.IsPrefix, eq_comm]
        | [second] => simp [List.IsPrefix, eq_comm, and_assoc]
        | second :: third :: rest => simp
      rw [deepAcross_cons_iff, ih, first, List.suffix_cons_iff, List.suffix_cons_iff, or_and_right,
        or_and_right, or_or_or_comm]

/-- If two stars and a separator come to stand at the front of a text only through what is written
behind it, the text is shorter than they are. -/
theorem length_lt_of_deepAt_append {char : Char} {rest right : List Char}
    (plain : deepAt (char :: rest) 0 = false) (begins : deepAt (char :: rest ++ right) 0 = true) :
    rest.length < 2 := by
  obtain ⟨behind, equal⟩ := deepAt_zero_iff.mp begins
  match rest with
  | [] | [_] => simp
  | second :: third :: others =>
      simp only [List.cons_append, List.cons.injEq] at equal
      obtain ⟨rfl, rfl, rfl, -⟩ := equal
      cases plain

/-- Two texts are scanned one by one exactly if no two stars and a separator lie across the place
where they meet; if they do, one token takes the place of a star. -/
theorem scan_append_iff (left right : List Char) :
    scan (left ++ right) = scan left ++ scan right ↔ ¬DeepAcross left right := by
  induction left using scanInduction with
  | nil => simp [not_deepAcross_nil]
  | deep rest ih => simp [deepAcross_cons_iff, ih]
  | plain char rest plain ih =>
      cases begins : deepAt (char :: rest ++ right) 0 with
      | false =>
          rw [deepAcross_cons_iff, begins]
          simp only [List.cons_append] at begins ⊢
          rw [scan_cons begins, scan_cons plain]
          simp [ih]
      | true =>
          have across : DeepAcross (char :: rest) right :=
            (deepAcross_cons_iff char rest right).mpr
              (Or.inl ⟨begins, length_lt_of_deepAt_append plain begins⟩)
          obtain ⟨behind, equal⟩ := deepAt_zero_iff.mp begins
          have isStar : char = '*' := (List.cons.inj equal).1
          rw [equal, scan_deep, scan_cons plain, isStar]
          simp [ofChar, isStar ▸ across]

theorem scan_append {left right : List Char} (apart : ¬DeepAcross left right) :
    scan (left ++ right) = scan left ++ scan right :=
  (scan_append_iff left right).mpr apart

/-- Two stars and a separator are one token, whatever stands in front of them. -/
theorem scan_append_deep (left rest : List Char) :
    scan (left ++ spelling .deep ++ rest) = scan left ++ .deep :: scan rest := by
  have apart : ¬DeepAcross left (spelling .deep ++ rest) := by
    simp [deepAcross_iff, spelling]
  rw [List.append_assoc, scan_append apart]
  rfl

/-! ## Texts of two globs -/

/-- The tokens on both sides of a cut, and the tokens of the whole: some stars end the first text,
the others begin the second one, and a separator follows them. -/
theorem exists_scan_of_deepAcross {left right : List Char} (across : DeepAcross left right) :
    ∃ (front back : List Token) (stars others : Nat),
      scan left = front ++ List.replicate stars .star ∧
        scan right = List.replicate others .star ++ .lit separator :: back ∧
        scan (left ++ right) = front ++ .deep :: back := by
  rcases (deepAcross_iff left right).mp across with
    ⟨⟨before, rfl⟩, after, rfl⟩ | ⟨⟨before, rfl⟩, after, rfl⟩
  · refine ⟨scan before, scan after, 2, 0, ?_, rfl, ?_⟩
    · exact scan_append (by simp [deepAcross_iff])
    · rw [List.append_assoc]
      exact scan_append (by simp [deepAcross_iff])
  · refine ⟨scan before, scan after, 1, 1, ?_, rfl, ?_⟩
    · exact scan_append (by simp [deepAcross_iff])
    · rw [List.append_assoc]
      exact scan_append (by simp [deepAcross_iff])

/-- Texts of two globs, one behind the other, are a text of the globs one behind the other: whatever
the stars stand for that the globs share with a separator, the separator ends it. -/
theorem composes_scan_append {left right first second : List Char}
    (composesFirst : Composes (scan left) first) (composesSecond : Composes (scan right) second) :
    Composes (scan (left ++ right)) (first ++ second) := by
  by_cases across : DeepAcross left right
  · obtain ⟨front, back, stars, others, left_eq, right_eq, whole_eq⟩ :=
      exists_scan_of_deepAcross across
    rw [left_eq, composes_append] at composesFirst
    rw [right_eq, composes_append] at composesSecond
    obtain ⟨begun, segment, rfl, composesFront, -⟩ := composesFirst
    obtain ⟨ended, _, rfl, -, _, behind, rfl, rfl, composesBack⟩ := composesSecond
    rw [whole_eq, composes_append]
    have denotes : Denotes .deep (segment ++ ended ++ [separator]) := Or.inr ⟨_, rfl⟩
    exact ⟨begun, segment ++ ended ++ [separator] ++ behind, by simp, composesFront,
      segment ++ ended ++ [separator], behind, rfl, denotes, composesBack⟩
  · rw [scan_append across, composes_append]
    exact ⟨first, second, rfl, composesFirst, composesSecond⟩

/-- The code words of two globs come one behind the other exactly if their tokens do, since code
words can be read back. -/
theorem codeWords_scan_append_iff (left right : List Char) :
    (scan (left ++ right)).flatMap codeWord =
        (scan left).flatMap codeWord ++ (scan right).flatMap codeWord ↔
      ¬DeepAcross left right := by
  rw [← scan_append_iff, ← List.flatMap_append]
  constructor
  · intro equal
    have readable : ∀ token ∈ scan left ++ scan right, token.Readable := by
      intro token member
      rcases List.mem_append.mp member with inLeft | inRight
      · exact readable_of_mem_scan inLeft
      · exact readable_of_mem_scan inRight
    have read : ofCodeWords? ((scan (left ++ right)).flatMap codeWord) =
        some (scan (left ++ right)) := ofCodeWords?_codeWords fun _ => readable_of_mem_scan
    rw [equal, ofCodeWords?_codeWords readable] at read
    exact (Option.some.inj read).symm
  · intro equal
    rw [equal]

end Token

namespace Glob

/-- One glob written behind another. -/
instance : Append Glob where
  append left right := ⟨left.source ++ right.source⟩

@[simp] theorem source_append (left right : Glob) :
    (left ++ right).source = left.source ++ right.source := rfl

protected theorem append_assoc (first second third : Glob) :
    first ++ second ++ third = first ++ (second ++ third) :=
  congrArg Glob.mk String.append_assoc

theorem tokens_append (left right : Glob) :
    (left ++ right).tokens = Token.scan (left.source.toList ++ right.source.toList) := by
  rw [← String.toList_append]
  rfl

/-- The regular expression of a glob, as text, without the marks of a whole text. -/
def body (glob : Glob) : List Char :=
  glob.tokens.flatMap Token.codeWord

/-- Whether two stars and a separator are cut where one glob ends and the other begins. -/
def DeepAcross (left right : Glob) : Prop :=
  Token.DeepAcross left.source.toList right.source.toList

theorem accepts_append_iff_composes (left right : Glob) (path : String) :
    (left ++ right).accepts path = true ↔
      Token.Composes (Token.scan (left.source.toList ++ right.source.toList)) path.toList := by
  rw [accepts_iff_mem, mem_iff_composes, tokens_append]

/-- The regular expression of two globs, one behind the other, is that of the first with that of
the second behind it exactly if no two stars and a separator are cut: they are cut where the first
glob ends in two stars before a separator, or in one star before another one and a separator.  In
any case the glob of both holds of a path of the first with a path of the second behind it, and if
nothing is cut, it holds of nothing else. -/
theorem body_append_iff_and_accepts_append (left right : Glob) :
    (∀ glob : Glob, glob.regexText.toList = "(?s:".toList ++ glob.body ++ ")\\Z".toList) ∧
      ((left ++ right).body = left.body ++ right.body ↔ ¬left.DeepAcross right) ∧
      (left.DeepAcross right ↔
        "**".toList <:+ left.source.toList ∧ "/".toList <+: right.source.toList ∨
          "*".toList <:+ left.source.toList ∧ "*/".toList <+: right.source.toList) ∧
      (∀ first second : String, left.accepts first = true → right.accepts second = true →
        (left ++ right).accepts (first ++ second) = true) ∧
      (¬left.DeepAcross right → ∀ path : String, (left ++ right).accepts path = true →
        ∃ first second, path = first ++ second ∧ left.accepts first = true ∧
          right.accepts second = true) := by
  refine ⟨fun glob => glob.toList_regexText, ?_, Token.deepAcross_iff _ _, ?_, ?_⟩
  · rw [body, tokens_append]
    exact Token.codeWords_scan_append_iff _ _
  · intro first second acceptsFirst acceptsSecond
    rw [accepts_iff_mem, mem_iff_composes] at acceptsFirst acceptsSecond
    rw [accepts_append_iff_composes, String.toList_append]
    exact Token.composes_scan_append acceptsFirst acceptsSecond
  · intro apart path accepted
    rw [accepts_append_iff_composes, Token.scan_append apart, Token.composes_append] at accepted
    obtain ⟨first, second, path_eq, composesFirst, composesSecond⟩ := accepted
    refine ⟨String.ofList first, String.ofList second, ?_, ?_, ?_⟩
    · rw [← String.ofList_append, ← path_eq, String.ofList_toList]
    · rw [accepts_iff_mem, mem_iff_composes, String.toList_ofList]
      exact composesFirst
    · rw [accepts_iff_mem, mem_iff_composes, String.toList_ofList]
      exact composesSecond

/-- A cut between two stars and a separator, where the glob of both holds of a path with another one
behind it; and two stars without a separator, where every path can be taken apart. -/
theorem accepts_append_of_cut_and_of_uncut :
    ((⟨"**"⟩ : Glob).accepts "a" = true ∧ (⟨"/b"⟩ : Glob).accepts "/b" = true ∧
        (⟨"**"⟩ ++ ⟨"/b"⟩ : Glob).accepts ("a" ++ "/b") = true) ∧
      ¬(⟨"a*"⟩ : Glob).DeepAcross ⟨"*b"⟩ ∧ (⟨"a*"⟩ ++ ⟨"*b"⟩ : Glob).accepts "axb" = true ∧
        ∃ first second, "axb" = first ++ second ∧ (⟨"a*"⟩ : Glob).accepts first = true ∧
          (⟨"*b"⟩ : Glob).accepts second = true := by
  obtain ⟨-, -, -, joins, -⟩ := body_append_iff_and_accepts_append ⟨"**"⟩ ⟨"/b"⟩
  obtain ⟨-, -, acrossIff, -, parts⟩ := body_append_iff_and_accepts_append ⟨"a*"⟩ ⟨"*b"⟩
  have stars : (⟨"**"⟩ : Glob).accepts "a" = true := by decide
  have literal : (⟨"/b"⟩ : Glob).accepts "/b" = true := by decide
  have apart : ¬(⟨"a*"⟩ : Glob).DeepAcross ⟨"*b"⟩ := by
    rw [acrossIff]
    decide
  have accepted : (⟨"a*"⟩ ++ ⟨"*b"⟩ : Glob).accepts "axb" = true := by decide
  have joined := joins "a" "/b" stars literal
  exact ⟨⟨stars, literal, joined⟩, apart, accepted, parts apart "axb" accepted⟩

end Glob
end PathSets
