import PathSets.Regex.Printer

/-!
# Written expressions can be read

No sign is the beginning of another one, so a text is cut back into the signs it was made from.
A `Regex.Item` is an expression that stands in writing as one piece; a sequence of items is read
back item by item, with the items inside a group on a level of the stack of their own.
-/

namespace PathSets

namespace Lexeme

/-- The sign at the front of a text is cut off, whatever follows it. -/
theorem scan_text_append (lexeme : Lexeme) (rest : List Char) :
    scan (lexeme.text ++ rest) = (scan rest).map (lexeme :: ·) := by
  cases lexeme with
  | inSegment | star | openGroup | openAll | close | textEnd => rfl
  | lit char =>
      by_cases escaped : isEscaped char
      · simp only [text, escaped, if_true, List.cons_append, List.nil_append]
        rw [scan]
        · simp [escaped]
        · rintro rfl
          contradiction
      · have plain : isMeta char = false :=
          Bool.eq_false_iff.mpr fun special => escaped (isEscaped_of_isMeta special)
        simp only [text, escaped, Bool.false_eq_true, if_false, List.singleton_append]
        rw [scan]
        · simp [plain]
        all_goals
          intros
          subst_vars
          exact escaped rfl

/-- The signs of a text are those that it was made from. -/
theorem scan_flatMap_text (lexemes : List Lexeme) :
    scan (lexemes.flatMap text) = some lexemes := by
  induction lexemes with
  | nil => rfl
  | cons lexeme rest ih => simp [scan_text_append, ih]

end Lexeme

namespace Regex

/-- An expression that stands in writing as one piece: a symbol, a repeated symbol, or a repeated
group of items. -/
inductive Item : Regex → Prop
  | single (symbol : Symbol) : Item (.single symbol)
  | repeated (symbol : Symbol) : Item (.star (.single symbol))
  | group (items : List Regex) (each : ∀ item ∈ items, Item item) : Item (.star (sequence items))

theorem lexemes_sequence (items : List Regex) :
    (sequence items).lexemes = items.flatMap lexemes := by
  induction items with
  | nil => rfl
  | cons item rest ih => simp [lexemes, ih]

theorem lexemes_star_sequence (items : List Regex) :
    (Regex.star (sequence items)).lexemes =
      .openGroup :: items.flatMap lexemes ++ [.close, .star] := by
  rw [← lexemes_sequence]
  cases items <;> rfl

/-- The written form of a sequence is that of its parts, one after another. -/
theorem text_sequence (items : List Regex) : (sequence items).text = items.flatMap text := by
  rw [text, lexemes_sequence, List.flatMap_assoc]
  rfl

/-- No item begins with the sign of repetition, which would belong to what stands before it. -/
theorem head?_item_ne_star {item : Regex} (isItem : Item item) (rest : List Lexeme) :
    (item.lexemes ++ rest).head? ≠ some .star := by
  cases isItem with
  | single symbol => cases symbol <;> simp [lexemes, Symbol.lexeme]
  | repeated symbol => cases symbol <;> simp [lexemes, Symbol.lexeme]
  | group items each => simp [lexemes_star_sequence]

theorem head?_items_ne_star {items : List Regex} (each : ∀ item ∈ items, Item item)
    {rest : List Lexeme} (notStar : rest.head? ≠ some .star) :
    (items.flatMap lexemes ++ rest).head? ≠ some .star := by
  cases items with
  | nil => exact notStar
  | cons item others =>
      rw [List.flatMap_cons, List.append_assoc]
      exact head?_item_ne_star (each item List.mem_cons_self) _

theorem readItems_symbol (enclosing : List (List Regex)) (before : List Regex) (symbol : Symbol)
    {rest : List Lexeme} (notStar : rest.head? ≠ some .star) :
    readItems enclosing before (symbol.lexeme :: rest) =
      readItems enclosing (.single symbol :: before) rest := by
  cases symbol <;> rw [Symbol.lexeme, readItems] <;> rintro others rfl <;> simp at notStar

theorem readItems_symbol_star (enclosing : List (List Regex)) (before : List Regex)
    (symbol : Symbol) (rest : List Lexeme) :
    readItems enclosing before (symbol.lexeme :: .star :: rest) =
      readItems enclosing (.star (.single symbol) :: before) rest := by
  cases symbol <;> rfl

/-- Reading a sequence puts its items on the stack, given that this holds of each item. -/
theorem readItems_flatMap {items : List Regex} (each : ∀ item ∈ items, Item item)
    (reads : ∀ item ∈ items, ∀ (enclosing : List (List Regex)) (before : List Regex)
      (rest : List Lexeme), rest.head? ≠ some .star →
        readItems enclosing before (item.lexemes ++ rest) =
          readItems enclosing (item :: before) rest)
    (enclosing : List (List Regex)) (before : List Regex) {rest : List Lexeme}
    (notStar : rest.head? ≠ some .star) :
    readItems enclosing before (items.flatMap lexemes ++ rest) =
      readItems enclosing (items.reverse ++ before) rest := by
  induction items generalizing before with
  | nil => rfl
  | cons item others ih =>
      have eachOther : ∀ other ∈ others, Item other := fun other member =>
        each other (List.mem_cons_of_mem item member)
      rw [List.flatMap_cons, List.append_assoc,
        reads item List.mem_cons_self _ _ _ (head?_items_ne_star eachOther notStar),
        ih eachOther (fun other member => reads other (List.mem_cons_of_mem item member))]
      simp

/-- Reading an item puts it on the stack. -/
theorem readItems_item {item : Regex} (isItem : Item item) (enclosing : List (List Regex))
    (before : List Regex) {rest : List Lexeme} (notStar : rest.head? ≠ some .star) :
    readItems enclosing before (item.lexemes ++ rest) =
      readItems enclosing (item :: before) rest := by
  induction isItem generalizing enclosing before rest with
  | single symbol => exact readItems_symbol enclosing before symbol notStar
  | repeated symbol => exact readItems_symbol_star enclosing before symbol rest
  | group items each ih =>
      have closed : (Lexeme.close :: Lexeme.star :: rest).head? ≠ some .star := by simp
      calc
        readItems enclosing before ((Regex.star (sequence items)).lexemes ++ rest) =
            readItems (before :: enclosing) []
              (items.flatMap lexemes ++ .close :: .star :: rest) := by
          simp [lexemes_star_sequence, readItems]
        _ = readItems (before :: enclosing) (items.reverse ++ []) (.close :: .star :: rest) :=
          readItems_flatMap each
            (fun item member enclosing before rest => ih item member enclosing before)
            _ _ closed
        _ = readItems enclosing (.star (sequence items) :: before) rest := by
          simp [readItems]

/-- A sequence of items is read back from its anchored form. -/
theorem read?_anchoredText {items : List Regex} (each : ∀ item ∈ items, Item item) :
    read? (sequence items).anchoredText = some (sequence items) := by
  have ending : [Lexeme.close, Lexeme.textEnd].head? ≠ some .star := by simp
  rw [read?, anchoredText, Lexeme.scan_flatMap_text, anchoredLexemes, lexemes_sequence]
  change readItems [] [] (items.flatMap lexemes ++ [.close, .textEnd]) = some (sequence items)
  rw [readItems_flatMap each (fun item member _ _ _ => readItems_item (each item member) _ _)
    [] [] ending]
  simp [readItems]

end Regex

end PathSets
