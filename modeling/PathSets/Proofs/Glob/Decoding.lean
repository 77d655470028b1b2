import PathSets.Glob.Source
import PathSets.PathSet.Printer
import PathSets.Proofs.Glob.Scanning
import PathSets.Proofs.Regex.Reading

/-!
# The written form of a glob determines it

The written form of a glob is one code word for each token, between two marks.  No code word is the
beginning of another one except that of a question mark, whose code word is followed by a star in
that of a star; and no code word begins with a star.  So the tokens can be read back, and they are
those of a glob exactly if no two stars stand loose before a separator.
-/

namespace PathSets
namespace Token

/-- Whether a glob can spell a token: stars and question marks are never literal. -/
def Readable : Token → Prop
  | .lit char => char ≠ '*' ∧ char ≠ '?'
  | _ => True

theorem readable_ofChar (char : Char) : (ofChar char).Readable := by
  unfold ofChar
  split
  · trivial
  · split
    · trivial
    · exact ⟨‹_›, ‹_›⟩

theorem readable_of_mem_scan {glob : List Char} {token : Token} (member : token ∈ scan glob) :
    token.Readable := by
  induction glob using scanInduction with
  | nil => simp at member
  | deep rest ih =>
      rcases List.mem_cons.mp member with rfl | later
      · trivial
      · exact ih later
  | plain char rest begins ih =>
      rw [scan_cons begins] at member
      rcases List.mem_cons.mp member with rfl | later
      · exact readable_ofChar char
      · exact ih later

/-! ## Code words -/

/-- How a token is written in a regular expression. -/
def codeWord (token : Token) : List Char :=
  token.regex.text

theorem codeWord_lit (char : Char) :
    codeWord (.lit char) = if isEscaped char then ['\\', char] else [char] := by
  simp [codeWord, regex, Regex.text, Regex.lexemes, Symbol.lexeme, Lexeme.text]

theorem head?_codeWord_ne_star (token : Token) (rest : List Char) :
    (token.codeWord ++ rest).head? ≠ some '*' := by
  cases token with
  | deep | star | one => simp [codeWord, regex, Regex.text, Regex.lexemes, Regex.sequence,
      Symbol.lexeme, Lexeme.text]
  | lit char =>
      rw [codeWord_lit]
      split
      · simp
      · rintro equal
        obtain rfl : char = '*' := by simpa using equal
        contradiction

theorem head?_codeWords_ne_star (tokens : List Token) :
    (tokens.flatMap codeWord).head? ≠ some '*' := by
  cases tokens with
  | nil => simp
  | cons token rest => exact head?_codeWord_ne_star token _

/-- A code word at the front of a text is read as its token, unless a star lengthens it. -/
theorem ofCodeWords?_codeWord_append {token : Token} (readable : token.Readable) {rest : List Char}
    (notStar : rest.head? ≠ some '*') :
    ofCodeWords? (token.codeWord ++ rest) = (ofCodeWords? rest).map (token :: ·) := by
  cases token with
  | deep | star => rfl
  | one =>
      change ofCodeWords? ('[' :: '^' :: '/' :: ']' :: rest) = _
      rw [ofCodeWords?]
      rintro others rfl
      simp at notStar
  | lit char =>
      rw [codeWord_lit]
      split
      case isTrue escaped =>
        change ofCodeWords? ('\\' :: char :: rest) = _
        rw [ofCodeWords?]
        simp [escaped, readable.1, readable.2]
      case isFalse plain =>
        change ofCodeWords? (char :: rest) = _
        rw [ofCodeWords?]
        · simp [plain]
        all_goals
          intros
          subst_vars
          exact plain rfl

theorem ofCodeWords?_codeWords {tokens : List Token}
    (readable : ∀ token ∈ tokens, token.Readable) :
    ofCodeWords? (tokens.flatMap codeWord) = some tokens := by
  induction tokens with
  | nil => rfl
  | cons token rest ih =>
      rw [List.forall_mem_cons] at readable
      rw [List.flatMap_cons,
        ofCodeWords?_codeWord_append readable.1 (head?_codeWords_ne_star rest), ih readable.2]
      rfl

theorem eq_codeWords_of_map_cons (token : Token) (readable : token.Readable) {rest : List Char}
    {tokens : List Token}
    (ih : ∀ {others}, ofCodeWords? rest = some others →
      rest = others.flatMap codeWord ∧ ∀ other ∈ others, other.Readable)
    (read : (ofCodeWords? rest).map (token :: ·) = some tokens) :
    token.codeWord ++ rest = tokens.flatMap codeWord ∧ ∀ token ∈ tokens, token.Readable := by
  obtain ⟨others, readRest, rfl⟩ := Option.map_eq_some_iff.mp read
  obtain ⟨rest_eq, readableOthers⟩ := ih readRest
  rw [List.flatMap_cons, ← rest_eq]
  exact ⟨rfl, List.forall_mem_cons.mpr ⟨readable, readableOthers⟩⟩

/-- What is read as tokens is made of their code words. -/
theorem eq_codeWords_of_ofCodeWords? {text : List Char} {tokens : List Token}
    (read : ofCodeWords? text = some tokens) :
    text = tokens.flatMap codeWord ∧ ∀ token ∈ tokens, token.Readable := by
  induction text using ofCodeWords?.induct generalizing tokens with
  | case1 =>
      obtain rfl : tokens = [] := by simpa [ofCodeWords?] using read.symm
      simp
  | case2 rest ih => exact eq_codeWords_of_map_cons .deep trivial ih read
  | case3 rest ih => exact eq_codeWords_of_map_cons .star trivial ih read
  | case4 rest notStar ih =>
      rw [ofCodeWords?] at read
      · exact eq_codeWords_of_map_cons .one trivial ih read
      · exact notStar
  | case5 char rest allowed ih =>
      rw [ofCodeWords?, if_pos allowed] at read
      have word : codeWord (.lit char) = ['\\', char] := by simp [codeWord_lit, allowed.1]
      simpa [word] using eq_codeWords_of_map_cons (.lit char) allowed.2 ih read
  | case6 char rest refused =>
      rw [ofCodeWords?, if_neg refused] at read
      cases read
  | case7 char rest notDeep notStar notOne notEscape escaped =>
      rw [ofCodeWords?] at read
      · simp [escaped] at read
      all_goals assumption
  | case8 char rest notDeep notStar notOne notEscape plain ih =>
      have word : codeWord (.lit char) = [char] := by simp [codeWord_lit, plain]
      have readable : Readable (.lit char) := by
        constructor
        all_goals
          rintro rfl
          exact plain rfl
      rw [ofCodeWords?, if_neg plain] at read
      · simpa [word] using eq_codeWords_of_map_cons (.lit char) readable ih read
      all_goals assumption

theorem ofCodeWords?_eq_some_iff {text : List Char} {tokens : List Token} :
    ofCodeWords? text = some tokens ↔
      text = tokens.flatMap codeWord ∧ ∀ token ∈ tokens, token.Readable := by
  constructor
  · exact eq_codeWords_of_ofCodeWords?
  · rintro ⟨rfl, readable⟩
    exact ofCodeWords?_codeWords readable

/-! ## Spelling tokens as a glob -/

theorem hasLooseDeep_cons (token : Token) (notStar : token ≠ .star) (rest : List Token) :
    hasLooseDeep (token :: rest) = hasLooseDeep rest := by
  cases token with
  | star => exact absurd rfl notStar
  | deep | one | lit => rfl

theorem hasLooseDeep_star_cons (rest : List Token) :
    hasLooseDeep (.star :: rest) = true ↔
      (∃ others, rest = .star :: .lit separator :: others) ∨ hasLooseDeep rest = true := by
  match rest with
  | .star :: .lit char :: others =>
      simp [hasLooseDeep]
  | [] | [.star] | .deep :: _ | .one :: _ | .lit _ :: _ | .star :: .deep :: _ | .star :: .star :: _
  | .star :: .one :: _ => simp [hasLooseDeep]

/-- A star and a separator at the front of a spelling are tokens of their own. -/
theorem flatMap_spelling_eq_star_separator {tokens : List Token} {behind : List Char}
    (readable : ∀ token ∈ tokens, token.Readable)
    (equal : tokens.flatMap spelling = '*' :: '/' :: behind) :
    ∃ others, tokens = .star :: .lit separator :: others := by
  match tokens with
  | [] | [.star] | .deep :: _ | .one :: _ | .star :: .deep :: _ | .star :: .star :: _
  | .star :: .one :: _ => simp [spelling, separator] at equal
  | .star :: .lit char :: others =>
      obtain ⟨rfl, -⟩ : char = separator ∧ others.flatMap spelling = behind := by
        simpa [spelling] using equal
      exact ⟨others, rfl⟩
  | .lit char :: others =>
      have isStar : char = '*' := by simpa [spelling] using congrArg List.head? equal
      exact absurd isStar (readable _ List.mem_cons_self).1

/-- Two stars and a separator begin the spelling of a star exactly where they stand loose. -/
theorem deepAt_flatMap_spelling_star_iff {tokens : List Token}
    (readable : ∀ token ∈ tokens, token.Readable) :
    deepAt ('*' :: tokens.flatMap spelling) 0 = true ↔
      ∃ others, tokens = .star :: .lit separator :: others := by
  rw [deepAt_zero_iff]
  constructor
  · rintro ⟨behind, equal⟩
    exact flatMap_spelling_eq_star_separator readable (List.cons.inj equal).2
  · rintro ⟨others, rfl⟩
    exact ⟨others.flatMap spelling, rfl⟩

theorem ofChar_of_readable {char : Char} (readable : Readable (.lit char)) :
    ofChar char = .lit char := by
  rw [ofChar, if_neg readable.1, if_neg readable.2]

/-- Tokens are those of the glob they spell exactly if no two stars stand loose before a
separator. -/
theorem scan_flatMap_spelling_iff {tokens : List Token}
    (readable : ∀ token ∈ tokens, token.Readable) :
    scan (tokens.flatMap spelling) = tokens ↔ hasLooseDeep tokens = false := by
  induction tokens with
  | nil => exact ⟨fun _ => rfl, fun _ => rfl⟩
  | cons token rest ih =>
      rw [List.forall_mem_cons] at readable
      have ih := ih readable.2
      cases token with
      | deep =>
          change scan ('*' :: '*' :: '/' :: rest.flatMap spelling) = _ ↔ _
          rw [scan_deep, hasLooseDeep_cons .deep (by simp), ← ih]
          simp
      | one =>
          change scan ('?' :: rest.flatMap spelling) = _ ↔ _
          rw [scan_cons (deepAt_eq_false_of_ne (by decide) _), hasLooseDeep_cons .one (by simp),
            ← ih]
          simp [ofChar]
      | lit char =>
          change scan (char :: rest.flatMap spelling) = _ ↔ _
          rw [scan_cons (deepAt_eq_false_of_ne readable.1.1 _),
            hasLooseDeep_cons (.lit char) (by simp), ← ih, ofChar_of_readable readable.1]
          simp
      | star =>
          change scan ('*' :: rest.flatMap spelling) = _ ↔ _
          have looseIff := hasLooseDeep_star_cons rest
          have beginsIff := deepAt_flatMap_spelling_star_iff readable.2
          cases begins : deepAt ('*' :: rest.flatMap spelling) 0 with
          | false =>
              rw [begins] at beginsIff
              rw [scan_cons begins, Bool.eq_false_iff, ne_eq, looseIff, ← beginsIff]
              simp [ofChar, ih]
          | true =>
              obtain ⟨behind, equal⟩ := deepAt_zero_iff.mp begins
              rw [equal, scan_deep, looseIff.mpr (.inl (beginsIff.mp begins))]
              simp

end Token

theorem unwrap?_eq_some_iff {text body : List Char} :
    unwrap? text = some body ↔ text = ['(', '?', 's', ':'] ++ body ++ [')', '\\', 'Z'] := by
  rw [unwrap?, Option.ite_none_right_eq_some, Option.some.injEq]
  constructor
  · rintro ⟨⟨⟨inner, rfl⟩, ending, long⟩, rfl⟩
    have closed : [')', '\\', 'Z'] <:+ inner :=
      List.suffix_of_suffix_length_le ending (List.suffix_append _ _) (by simp at long ⊢; omega)
    obtain ⟨body, rfl⟩ := closed
    simp
  · rintro rfl
    refine ⟨⟨?_, List.suffix_append _ _, by simp⟩, by simp⟩
    rw [List.append_assoc]
    exact List.prefix_append _ _

namespace Glob

/-- The written form of a glob: its code words between the marks of a whole text. -/
theorem toList_regexText (glob : Glob) :
    glob.regexText.toList =
      ['(', '?', 's', ':'] ++ glob.tokens.flatMap Token.codeWord ++ [')', '\\', 'Z'] := by
  have body : glob.regex.lexemes.flatMap Lexeme.text = glob.tokens.flatMap Token.codeWord := by
    change glob.regex.text = _
    rw [regex, Regex.text_sequence, List.flatMap_map]
    rfl
  rw [regexText, String.toList_ofList, Regex.anchoredText, Regex.anchoredLexemes,
    List.flatMap_append, List.flatMap_cons, body]
  rfl

theorem unwrap?_regexText (glob : Glob) :
    unwrap? glob.regexText.toList = some (glob.tokens.flatMap Token.codeWord) :=
  unwrap?_eq_some_iff.mpr glob.toList_regexText

theorem readable_of_mem_tokens {glob : Glob} {token : Token} (member : token ∈ glob.tokens) :
    token.Readable :=
  Token.readable_of_mem_scan member

theorem flatMap_spelling_tokens (glob : Glob) :
    glob.tokens.flatMap Token.spelling = glob.source.toList :=
  Token.flatMap_spelling_scan _

theorem hasLooseDeep_tokens (glob : Glob) : Token.hasLooseDeep glob.tokens = false := by
  apply (Token.scan_flatMap_spelling_iff fun _ => readable_of_mem_tokens).mp
  rw [flatMap_spelling_tokens, tokens]

theorem ofRegexText?_eq_some_iff {text : String} {glob : Glob} :
    ofRegexText? text = some glob ↔ glob.regexText = text := by
  constructor
  · intro decoded
    simp only [ofRegexText?, Option.bind_eq_bind, Option.bind_eq_some_iff,
      Option.ite_none_left_eq_some, Option.pure_def, Option.some.injEq] at decoded
    obtain ⟨body, unwrapped, spelled, read, notLoose, rfl⟩ := decoded
    obtain ⟨rfl, readable⟩ := Token.ofCodeWords?_eq_some_iff.mp read
    have tokens_eq : tokens ⟨String.ofList (spelled.flatMap Token.spelling)⟩ = spelled := by
      rw [tokens, String.toList_ofList]
      exact (Token.scan_flatMap_spelling_iff readable).mpr (Bool.eq_false_iff.mpr notLoose)
    rw [← String.toList_inj, toList_regexText, tokens_eq, unwrap?_eq_some_iff.mp unwrapped]
  · rintro rfl
    have read : Token.ofCodeWords? (glob.tokens.flatMap Token.codeWord) = some glob.tokens :=
      Token.ofCodeWords?_codeWords fun _ => readable_of_mem_tokens
    simp [ofRegexText?, unwrap?_regexText, read, hasLooseDeep_tokens, flatMap_spelling_tokens]

theorem ofRegexText?_regexText (glob : Glob) : ofRegexText? glob.regexText = some glob :=
  ofRegexText?_eq_some_iff.mpr rfl

theorem regexText_inj {left right : Glob} : left.regexText = right.regexText ↔ left = right := by
  constructor
  · intro equal
    rw [← Option.some.injEq, ← ofRegexText?_regexText left, equal, ofRegexText?_regexText right]
  · rintro rfl
    rfl

/-- Decoding undoes the writing of globs: it gives back every glob, and where it gives one, its
written form is the decoded text.  So globs with one written form are equal, and sets of a single
glob are equal exactly if they are the same as plain text. -/
theorem ofRegexText?_inverts_regexText :
    (∀ glob : Glob, ofRegexText? glob.regexText = some glob) ∧
      (∀ (text : String) (glob : Glob),
        ofRegexText? text = some glob ↔ glob.regexText = text) ∧
      (∀ left right : Glob, left.regexText = right.regexText ↔ left = right) ∧
      ∀ {ι : Type} [DecidableEq ι] (leftTag rightTag : ι) (left right : Glob),
        (PathSet.single leftTag left).equal (.single rightTag right) = true ↔
          (PathSet.single leftTag left).plain = (PathSet.single rightTag right).plain := by
  refine ⟨ofRegexText?_regexText, fun _ _ => ofRegexText?_eq_some_iff, fun _ _ => regexText_inj, ?_⟩
  intro ι _ leftTag rightTag left right
  rw [PathSet.plain, PathSet.plain, regexText_inj, PathSet.equal, beq_iff_eq]

example : ofRegexText? "(?s:[^/]*[^/]*b/)\\Z" = some ⟨"**b/"⟩ := by rfl

/-- No glob is written with two stars loose before a separator. -/
example : ofRegexText? "(?s:[^/]*[^/]*/)\\Z" = none := by rfl

end Glob
end PathSets
