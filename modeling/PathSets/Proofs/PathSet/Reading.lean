import PathSets.PathSet.Reader
import PathSets.Proofs.PathSet.Testing
import PathSets.Proofs.Text.Quoted

/-!
# Written sets can be read

The words of the written form tell the kinds of sets apart, brackets and commas separate the parts,
and a quoted glob ends where its quote is closed, whatever the glob holds.  So a set in writing,
with any text behind it, is read back to its structure.  Sets that are written alike have the same
structure, and with it the same paths.
-/

namespace PathSets

/-! ## Words and lists -/

@[simp] theorem afterWord?_append (word : String) (rest : List Char) :
    afterWord? word (word.toList ++ rest) = some rest := by
  simp [afterWord?]

/-- A word is not found where another word stands, unless one of them begins with the other. -/
theorem afterWord?_append_eq_none {word other : String} (longer : ¬word.toList <+: other.toList)
    (shorter : ¬other.toList <+: word.toList) (rest : List Char) :
    afterWord? word (other.toList ++ rest) = none := by
  apply if_neg
  intro begins
  have both : other.toList <+: other.toList ++ rest := List.prefix_append other.toList rest
  exact (List.prefix_or_prefix_of_prefix begins both).elim longer shorter

theorem commaSeparated_cons (first : List Char) (others : List (List Char)) :
    commaSeparated (first :: others) = first ++ others.flatMap fun text => ',' :: ' ' :: text := by
  induction others generalizing first with
  | nil => simp [commaSeparated]
  | cons second others ih => simp [commaSeparated, ih]

theorem infix_commaSeparated {text : List Char} {texts : List (List Char)}
    (member : text ∈ texts) : text <:+: commaSeparated texts := by
  induction texts with
  | nil => cases member
  | cons first others ih =>
      rcases List.mem_cons.mp member with rfl | later
      · rw [commaSeparated_cons]
        exact (List.prefix_append _ _).isInfix
      · cases others with
        | nil => cases later
        | cons second others =>
            have behind : commaSeparated (second :: others) <:+
                commaSeparated (first :: second :: others) :=
              ⟨first ++ [',', ' '], by simp [commaSeparated_cons]⟩
            exact (ih later).trans behind.isInfix

theorem length_le_length_commaSeparated (texts : List (List Char)) :
    texts.length ≤ (commaSeparated texts).length + 1 := by
  cases texts with
  | nil => exact Nat.zero_le _
  | cons first others =>
      have each : others.length ≤ (others.flatMap fun text => ',' :: ' ' :: text).length := by
        induction others with
        | nil => exact Nat.le_refl 0
        | cons second others ih =>
            simp only [List.flatMap_cons, List.length_append, List.length_cons]
            omega
      rw [commaSeparated_cons, List.length_append, List.length_cons]
      omega

/-- A list between brackets is longer than each of its items, and has fewer items than
characters. -/
theorem lt_length_bracketed (texts : List (List Char)) :
    texts.length < (PathSet.bracketed texts).length ∧
      ∀ text ∈ texts, text.length < (PathSet.bracketed texts).length := by
  have length_eq : (PathSet.bracketed texts).length = (commaSeparated texts).length + 2 := by
    simp [PathSet.bracketed]
  rw [length_eq]
  constructor
  · have count := length_le_length_commaSeparated texts
    omega
  · intro text member
    have within := (infix_commaSeparated member).length_le
    omega

section Items

variable {α β : Type} {item : List Char → Option (α × List Char)} {write : β → List Char}
  {value : β → α} {items : List β}

theorem readRest_append
    (reads : ∀ held ∈ items, ∀ rest, item (write held ++ rest) = some (value held, rest))
    {fuel : Nat} (enough : items.length < fuel) (rest : List Char) :
    readRest item fuel ((items.map write).flatMap (fun text => ',' :: ' ' :: text) ++ ']' :: rest) =
      some (items.map value, rest) := by
  induction items generalizing fuel with
  | nil =>
      cases fuel with
      | zero => cases enough
      | succ fuel => simp [readRest, afterWord?]
  | cons held others ih =>
      rw [List.forall_mem_cons] at reads
      cases fuel with
      | zero => cases enough
      | succ fuel =>
          have later := ih reads.2 (Nat.lt_of_succ_lt_succ enough)
          have begins (text : List Char) : afterWord? ", " (',' :: ' ' :: text) = some text :=
            afterWord?_append ", " text
          simp [readRest, begins, reads.1, later]

/-- A list between brackets is read back item by item, if every item is and none begins with the
closing bracket. -/
theorem readBracketed_append
    (reads : ∀ held ∈ items, ∀ rest, item (write held ++ rest) = some (value held, rest))
    (opens : ∀ held ∈ items, ∀ rest, afterWord? "]" (write held ++ rest) = none)
    {fuel : Nat} (enough : items.length ≤ fuel) (rest : List Char) :
    readBracketed item fuel (PathSet.bracketed (items.map write) ++ rest) =
      some (items.map value, rest) := by
  cases items with
  | nil => simp [readBracketed, PathSet.bracketed, commaSeparated, afterWord?]
  | cons held others =>
      rw [List.forall_mem_cons] at reads opens
      have later := readRest_append reads.2 enough rest
      have begins (text : List Char) : afterWord? "[" ('[' :: text) = some text :=
        afterWord?_append "[" text
      simp [PathSet.bracketed, commaSeparated_cons, readBracketed, begins, opens.1, reads.1, later]

end Items

namespace PathSet

variable {ι : Type}

theorem shapes_eq_map (sets : List (PathSet ι)) : shapes sets = sets.map shape := by
  induction sets with
  | nil => rfl
  | cons set rest ih => rw [shapes, ih, List.map_cons]

theorem readGlob_append (visible : Char → Bool) (glob : Glob) (rest : List Char) :
    readGlob (Quoted.encode visible glob.source.toList ++ rest) = some (glob, rest) := by
  rw [readGlob, Quoted.read?_encode_append]
  simp

theorem afterWord?_close_encode (visible : Char → Bool) (text rest : List Char) :
    afterWord? "]" (Quoted.encode visible text ++ rest) = none := by
  rcases Quoted.delimiter_eq text with equal | equal
  · simp [afterWord?, Quoted.encode, equal]
  · simp [afterWord?, Quoted.encode, equal]

/-- The written form of a set begins with the word for its kind. -/
theorem exists_render_eq_append (visible : Char → Bool) (set : PathSet ι) :
    ∃ word tail, (set.kind, word) ∈ headWords ∧ set.render visible = word.toList ++ tail := by
  cases set with
  | empty => exact ⟨"EmptySet()", [], by simp [headWords, kind], rfl⟩
  | blank => exact ⟨"<MatchableSet>", [], by simp [headWords, kind], rfl⟩
  | single => exact ⟨"FileGlob(", _, by simp [headWords, kind], render_single ..⟩
  | anyOf => exact ⟨"FileGlobSet(", _, by simp [headWords, kind], render_anyOf ..⟩
  | union => exact ⟨"Union(", _, by simp [headWords, kind], render_union ..⟩
  | difference => exact ⟨"Complement(includes=", _, by simp [headWords, kind], render_difference ..⟩

theorem afterWord?_close_render (visible : Char → Bool) (set : PathSet ι) (rest : List Char) :
    afterWord? "]" (set.render visible ++ rest) = none := by
  have apart : ∀ entry ∈ headWords,
      ¬"]".toList <+: entry.2.toList ∧ ¬entry.2.toList <+: "]".toList := by
    decide
  obtain ⟨word, tail, known, render_eq⟩ := set.exists_render_eq_append visible
  rw [render_eq, List.append_assoc]
  exact afterWord?_append_eq_none (apart _ known).1 (apart _ known).2 _

theorem findSome?_eq_of_unique {α β : Type} {items : List α} {find : α → Option β} {item : α}
    {result : β} (member : item ∈ items) (hit : find item = some result)
    (miss : ∀ other ∈ items, other ≠ item → find other = none) :
    items.findSome? find = some result := by
  obtain ⟨front, back, rfl, fresh⟩ := List.eq_append_cons_of_mem member
  have before : ∀ other ∈ front, find other = none := by
    intro other inFront
    apply miss other (List.mem_append_left _ inFront)
    rintro rfl
    exact fresh inFront
  rw [List.findSome?_append, List.findSome?_eq_none_iff.mpr before, List.findSome?_cons, hit]
  rfl

/-- Of the words for kinds of sets, none begins with another one, so each is found where it
stands. -/
theorem readKind?_append {kind : Kind} {word : String} (known : (kind, word) ∈ headWords)
    (rest : List Char) : readKind? (word.toList ++ rest) = some (kind, rest) := by
  have apart : ∀ first ∈ headWords, ∀ second ∈ headWords, first ≠ second →
      ¬first.2.toList <+: second.2.toList := by
    decide
  refine findSome?_eq_of_unique known (by simp) ?_
  intro entry member other
  have longer := apart entry member (kind, word) known other
  have shorter := apart (kind, word) known entry member (Ne.symm other)
  change (afterWord? entry.2 (word.toList ++ rest)).map (entry.1, ·) = none
  rw [afterWord?_append_eq_none longer shorter, Option.map_none]

theorem readFront_append_of_known {kind : Kind} {word : String} (known : (kind, word) ∈ headWords)
    (fuel : Nat) (text : List Char) :
    readFront (fuel + 1) (word.toList ++ text) = readParts (readFront fuel) fuel kind text := by
  rw [readFront, readKind?_append known]
  rfl

theorem readBracketed_globs_append (visible : Char → Bool) (globs : List Glob) {fuel : Nat}
    (enough : globs.length ≤ fuel) (rest : List Char) :
    readBracketed readGlob fuel
        (bracketed (globs.map fun glob => Quoted.encode visible glob.source.toList) ++ rest) =
      some (globs, rest) := by
  have reads : ∀ glob ∈ globs, ∀ rest,
      readGlob (Quoted.encode visible glob.source.toList ++ rest) = some (glob, rest) :=
    fun glob _ => readGlob_append visible glob
  have opens : ∀ glob ∈ globs, ∀ rest,
      afterWord? "]" (Quoted.encode visible glob.source.toList ++ rest) = none :=
    fun glob _ => afterWord?_close_encode visible glob.source.toList
  simpa using readBracketed_append reads opens enough rest

theorem readBracketed_sets_append (visible : Char → Bool) {members : List (PathSet ι)}
    {front : List Char → Option (PathSet Unit × List Char)}
    (reads : ∀ set ∈ members, ∀ rest, front (set.render visible ++ rest) = some (set.shape, rest))
    {fuel : Nat} (enough : members.length ≤ fuel) (rest : List Char) :
    readBracketed front fuel (bracketed (members.map (render visible)) ++ rest) =
      some (shapes members, rest) := by
  have opens : ∀ set ∈ members, ∀ rest, afterWord? "]" (set.render visible ++ rest) = none :=
    fun set _ => afterWord?_close_render visible set
  rw [shapes_eq_map]
  exact readBracketed_append reads opens enough rest

/-- A set in writing, with any text behind it, is read back to its structure. -/
theorem readFront_append (visible : Char → Bool) (set : PathSet ι) {fuel : Nat}
    (enough : (set.render visible).length ≤ fuel) (rest : List Char) :
    readFront (fuel + 1) (set.render visible ++ rest) = some (set.shape, rest) := by
  induction set using memberInduction generalizing fuel rest with
  | empty tag =>
      have known : (Kind.emptySet, "EmptySet()") ∈ headWords := by decide
      rw [render_empty, readFront_append_of_known known]
      rfl
  | blank tag =>
      have known : (Kind.blankSet, "<MatchableSet>") ∈ headWords := by decide
      rw [render_blank, readFront_append_of_known known]
      rfl
  | single tag glob =>
      have known : (Kind.glob, "FileGlob(") ∈ headWords := by decide
      rw [render_single, List.append_assoc, List.append_assoc, readFront_append_of_known known,
        readParts, readGlob_append]
      rfl
  | anyOf tag globs =>
      have known : (Kind.globSet, "FileGlobSet(") ∈ headWords := by decide
      have bound := (lt_length_bracketed
        (globs.map fun glob => Quoted.encode visible glob.source.toList)).1
      rw [render_anyOf, List.length_append, List.length_append] at enough
      rw [List.length_map] at bound
      rw [render_anyOf, List.append_assoc, List.append_assoc, readFront_append_of_known known,
        readParts, readBracketed_globs_append visible globs (by omega)]
      rfl
  | union tag members ih =>
      have known : (Kind.union, "Union(") ∈ headWords := by decide
      obtain ⟨bound, each⟩ := lt_length_bracketed (members.map (render visible))
      rw [render_union, List.length_append, List.length_append] at enough
      rw [List.length_map] at bound
      obtain ⟨less, rfl⟩ : ∃ less, fuel = less + 1 := ⟨fuel - 1, by omega⟩
      have reads : ∀ set ∈ members, ∀ rest,
          readFront (less + 1) (set.render visible ++ rest) = some (set.shape, rest) := by
        intro set member
        have shorter := each (set.render visible) (List.mem_map_of_mem member)
        exact ih set member (by omega)
      rw [render_union, List.append_assoc, List.append_assoc, readFront_append_of_known known,
        readParts, readBracketed_sets_append visible reads (by omega)]
      rfl
  | difference tag included excluded ihIncluded ihExcluded =>
      have known : (Kind.difference, "Complement(includes=") ∈ headWords := by decide
      rw [render_difference] at enough
      simp only [List.length_append] at enough
      have word : 0 < "Complement(includes=".toList.length := by decide
      obtain ⟨less, rfl⟩ : ∃ less, fuel = less + 1 := ⟨fuel - 1, by omega⟩
      simp only [render_difference, List.append_assoc]
      rw [readFront_append_of_known known, readParts, ihIncluded (by omega)]
      simp only [Option.bind_eq_bind, Option.bind_some, afterWord?_append]
      rw [ihExcluded (by omega)]
      rfl

/-- The written form of a set is read back to the structure of the set. -/
theorem read?_render (visible : Char → Bool) (set : PathSet ι) :
    read? (set.render visible) = some set.shape := by
  have read := set.readFront_append visible (Nat.le_refl _) []
  rw [List.append_nil] at read
  rw [read?, read]

/-! ## Structure and paths -/

theorem testAny_shapes {subject : Subject} {sets : List (PathSet ι)}
    (same : ∀ set ∈ sets, set.shape.test subject = set.test subject) :
    testAny subject (shapes sets) = testAny subject sets := by
  induction sets with
  | nil => rfl
  | cons set rest ih =>
      rw [List.forall_mem_cons] at same
      rw [shapes, testAny, testAny, same.1, ih same.2]

/-- What a set says of a subject depends on its structure only. -/
theorem test_shape (subject : Subject) (set : PathSet ι) :
    set.shape.test subject = set.test subject := by
  induction set using memberInduction with
  | empty | blank | single | anyOf => rfl
  | union tag members ih => rw [shape, test, test, testAny_shapes ih]
  | difference tag included excluded ihIncluded ihExcluded =>
      rw [shape, test, test, ihIncluded, ihExcluded]

theorem test_eq_of_shape_eq {κ : Type} {left : PathSet ι} {right : PathSet κ}
    (same : left.shape = right.shape) (subject : Subject) :
    left.test subject = right.test subject := by
  rw [← test_shape, same, test_shape]

/-- Two sets that are written alike have the same structure, even if each of them was written with
its own choice of what stands as it is in quoted globs. -/
theorem shape_eq_of_render_eq {κ : Type} {visible other : Char → Bool} {left : PathSet ι}
    {right : PathSet κ} (same : left.render visible = right.render other) :
    left.shape = right.shape := by
  have leftRead := left.read?_render visible
  rw [same, right.read?_render] at leftRead
  exact (Option.some.inj leftRead).symm

/-- A set in writing tells the structure of the set, so sets that are written alike agree on every
subject. -/
theorem read?_render_and_test_eq_of_render_eq :
    (∀ (ι : Type) (visible : Char → Bool) (set : PathSet ι),
        read? (set.render visible) = some set.shape) ∧
      (∀ (ι : Type) (set : PathSet ι), read? set.shown.toList = some set.shape) ∧
      ∀ (ι κ : Type) (visible other : Char → Bool) (left : PathSet ι) (right : PathSet κ),
        left.render visible = right.render other →
          left.shape = right.shape ∧ ∀ subject, left.test subject = right.test subject := by
  refine ⟨fun ι visible set => set.read?_render visible, ?_, ?_⟩
  · intro ι set
    rw [shown, String.toList_ofList, read?_render]
  · intro ι κ visible other left right same
    have shapes_eq := shape_eq_of_render_eq same
    exact ⟨shapes_eq, test_eq_of_shape_eq shapes_eq⟩

/-- Quotes, a backslash and the end of a list within globs do not hide that two sets have one
structure, though their tags differ and they are written with different choices of what stands as
it is. -/
theorem shape_eq_of_quotes_and_brackets :
    (PathSet.difference 0 (.anyOf 1 [⟨"', '"⟩, ⟨"\\n])"⟩]) (.union 2 [.blank 3])).render
        (fun _ => true) =
      (PathSet.difference 'a' (.anyOf 'b' [⟨"', '"⟩, ⟨"\\n])"⟩])
        (.union 'c' [.blank 'd'])).render (fun _ => false) ∧
    (PathSet.difference 0 (.anyOf 1 [⟨"', '"⟩, ⟨"\\n])"⟩]) (.union 2 [.blank 3])).shape =
      (PathSet.difference 'a' (.anyOf 'b' [⟨"', '"⟩, ⟨"\\n])"⟩])
        (.union 'c' [.blank 'd'])).shape := by
  have same : (PathSet.difference 0 (.anyOf 1 [⟨"', '"⟩, ⟨"\\n])"⟩])
      (.union 2 [.blank 3])).render (fun _ => true) =
        (PathSet.difference 'a' (.anyOf 'b' [⟨"', '"⟩, ⟨"\\n])"⟩])
          (.union 'c' [.blank 'd'])).render (fun _ => false) := by
    decide
  exact ⟨same, (read?_render_and_test_eq_of_render_eq.2.2 _ _ _ _ _ _ same).1⟩

end PathSet
end PathSets
