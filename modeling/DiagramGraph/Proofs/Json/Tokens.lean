import DiagramGraph.Proofs.Json.Shape
import DiagramGraph.Proofs.Json.StringLiteral

/-!
# The tokens of a written value

A written value is cut into the tokens of its containers, keys and leaves, in
either layout. A separator between two tokens leaves no trace, and no token
runs into the next one: behind a number there is always a separator, a comma or
a closing bracket.
-/

namespace DiagramGraph.Json

namespace Value

/-! ## Tokens -/

mutual

/-- The tokens that a value is written with. -/
def tokens : Value → List Token
  | .null => [.null]
  | .boolean value => [.boolean value]
  | .number value => [.number value]
  | .string text => [.string text.toList]
  | .array [] => [.openArray, .closeArray]
  | .array (first :: rest) => .openArray :: (first.tokens ++ (itemTokens rest ++ [.closeArray]))
  | .object [] => [.openObject, .closeObject]
  | .object ((key, value) :: rest) =>
      .openObject :: .string key.toList :: .colon ::
        (value.tokens ++ (fieldTokens rest ++ [.closeObject]))

/-- The tokens of further items. -/
def itemTokens : List Value → List Token
  | [] => []
  | item :: rest => .comma :: (item.tokens ++ itemTokens rest)

/-- The tokens of further fields. -/
def fieldTokens : List (String × Value) → List Token
  | [] => []
  | (key, value) :: rest =>
      .comma :: .string key.toList :: .colon :: (value.tokens ++ fieldTokens rest)

end

end Value

/-! ## Cutting a text -/

/-- Blanks in front of a text make no tokens. -/
theorem tokens?_separators_append {blanks rest : List Char}
    (separators : ∀ char ∈ blanks, isSeparator char = true) :
    tokens? (blanks ++ rest) = tokens? rest := by
  induction blanks with
  | nil => rfl
  | cons char blanks ih =>
      rw [List.cons_append, tokens?, if_pos (separators char (by simp))]
      exact ih fun other member => separators other (by simp [member])

/-- A text that begins with a token is cut behind it. -/
theorem tokens?_of_token? {text rest : List Char} {token : Token}
    (ink : ∀ char ∈ text.head?, isSeparator char = false)
    (read : token? text = some (token, rest)) :
    tokens? text = (tokens? rest).map (token :: ·) := by
  cases text with
  | nil => simp [token?, number?, numberParts?, numberSign, whole?, digits?] at read
  | cons char more =>
      rw [tokens?, if_neg (by simp [ink char rfl])]
      split
      · next unread =>
          rw [read] at unread
          contradiction
      · next found =>
          rw [read] at found
          simp only [Option.some.injEq, Prod.mk.injEq] at found
          obtain ⟨rfl, rfl⟩ := found
          rfl

theorem tokens?_writtenString_append (text rest : List Char) :
    tokens? (writtenString text ++ rest) = (tokens? rest).map (.string text :: ·) := by
  apply tokens?_of_token? _ (token?_writtenString text rest)
  simp [writtenString, isSeparator]

/-- A number begins with a digit or a minus sign. -/
theorem head_of_number? {text rest : List Char} {number : Number}
    (read : number? text = some (number, rest)) :
    ∃ char more, text = char :: more ∧ (char.isDigit = true ∨ char = '-') := by
  cases text with
  | nil => simp [number?, numberParts?, numberSign, whole?, digits?] at read
  | cons char more =>
      refine ⟨char, more, rfl, ?_⟩
      by_cases digit : char.isDigit = true
      · exact .inl digit
      by_cases minus : char = '-'
      · exact .inr minus
      have sign : numberSign (char :: more) = (false, char :: more) := by
        unfold numberSign
        split <;> simp_all
      have whole : whole? (char :: more) = none := by
        unfold whole?
        split
        · simp_all
        · simp [digits?, digit]
      simp [number?, numberParts?, sign, whole] at read

/-- Where a number is read, no other token is. -/
theorem token?_of_number? {text rest : List Char} {number : Number}
    (read : number? text = some (number, rest)) : token? text = some (.number number, rest) := by
  obtain ⟨char, more, rfl, starts⟩ := head_of_number? read
  unfold token?
  split <;> simp_all

theorem tokens?_of_number? {text rest : List Char} {number : Number}
    (read : number? text = some (number, rest)) :
    tokens? text = (tokens? rest).map (.number number :: ·) := by
  apply tokens?_of_token? _ (token?_of_number? read)
  obtain ⟨char, more, rfl, starts⟩ := head_of_number? read
  rintro other ⟨⟩
  rcases starts with digit | rfl
  · by_cases blank : isSeparator char = true
    · simp only [isSeparator, Bool.or_eq_true, beq_iff_eq] at blank
      rcases blank with ((rfl | rfl) | rfl) | rfl <;> simp at digit
    · simpa using blank
  · decide

/-! ## Cutting a written value -/

/-- A layout that puts nothing but separators between tokens. -/
structure Layout.Separating (layout : Layout) : Prop where
  line : ∀ depth, ∀ char ∈ layout.line depth, isSeparator char = true
  afterColon : ∀ char ∈ layout.afterColon, isSeparator char = true

theorem Layout.separating_compact : Layout.compact.Separating where
  line := by simp [Layout.compact]
  afterColon := by simp [Layout.compact]

theorem Layout.separating_indented : Layout.indented.Separating where
  line := by
    intro depth char member
    simp only [Layout.indented, List.mem_cons, List.mem_replicate] at member
    rcases member with rfl | ⟨-, rfl⟩ <;> decide
  afterColon := by
    simp [Layout.indented, isSeparator]

/-- A separator does not continue a number. -/
theorem continuesNumber_of_separators {blanks rest : List Char}
    (separators : ∀ char ∈ blanks, isSeparator char = true)
    (stop : continuesNumber rest = false) : continuesNumber (blanks ++ rest) = false := by
  cases blanks with
  | nil => exact stop
  | cons char blanks =>
      have blank := separators char (by simp)
      simp only [isSeparator, Bool.or_eq_true, beq_iff_eq] at blank
      rcases blank with ((rfl | rfl) | rfl) | rfl <;> rfl

/-- The tokens that a single character stands for are put in front. -/
theorem tokens?_mark {mark : Char} {token : Token} (rest : List Char)
    (ink : isSeparator mark = false) (read : token? (mark :: rest) = some (token, rest)) :
    tokens? (mark :: rest) = (tokens? rest).map (token :: ·) := by
  apply tokens?_of_token? _ read
  simp [ink]

theorem continuesNumber_writeItems (layout : Layout) (depth : Nat) (items : List Value)
    {rest : List Char} (stop : continuesNumber rest = false) :
    continuesNumber (Value.writeItems layout depth items ++ rest) = false := by
  cases items with
  | nil => exact stop
  | cons item items => rfl

theorem continuesNumber_writeFields (layout : Layout) (depth : Nat)
    (fields : List (String × Value)) {rest : List Char} (stop : continuesNumber rest = false) :
    continuesNumber (Value.writeFields layout depth fields ++ rest) = false := by
  cases fields with
  | nil => exact stop
  | cons field fields => rfl

section Cutting

variable {layout : Layout}

/-- What is to be shown of a value: its text is cut into its tokens, whatever
follows it. -/
def CutsInto (layout : Layout) (value : Value) (tokens : List Token) : Prop :=
  ∀ depth rest, continuesNumber rest = false →
    tokens? (value.write layout depth ++ rest) = (tokens? rest).map (tokens ++ ·)

theorem tokens?_writeItems (separating : layout.Separating) {items : List Value}
    (each : ∀ item ∈ items, CutsInto layout item item.settled.tokens) (depth : Nat)
    {rest : List Char} (stop : continuesNumber rest = false) :
    tokens? (Value.writeItems layout depth items ++ rest) =
      (tokens? rest).map (Value.itemTokens (Value.mapItems Number.settled items) ++ ·) := by
  induction items with
  | nil => simp [Value.writeItems, Value.mapItems, Value.itemTokens]
  | cons item items ih =>
      have others := ih fun other member => each other (by simp [member])
      have first := each item (by simp) depth _
        (continuesNumber_writeItems layout depth items stop)
      simp only [Value.writeItems, List.cons_append, List.append_assoc]
      rw [tokens?_mark _ (by decide) rfl, tokens?_separators_append (separating.line depth), first,
        others]
      simp [Value.mapItems, Value.itemTokens, Value.settled, Function.comp_def]

/-- A key is cut into its string and the colon. -/
theorem tokens?_writtenKey (separating : layout.Separating) (key : String) (rest : List Char) :
    tokens? (Value.writtenKey layout key ++ rest) =
      (tokens? rest).map (.string key.toList :: .colon :: ·) := by
  simp only [Value.writtenKey, List.append_assoc, List.cons_append]
  rw [tokens?_writtenString_append, tokens?_mark _ (by decide) rfl,
    tokens?_separators_append separating.afterColon]
  simp [Function.comp_def]

theorem tokens?_writeFields (separating : layout.Separating) {fields : List (String × Value)}
    (each : ∀ field ∈ fields, CutsInto layout field.2 field.2.settled.tokens) (depth : Nat)
    {rest : List Char} (stop : continuesNumber rest = false) :
    tokens? (Value.writeFields layout depth fields ++ rest) =
      (tokens? rest).map (Value.fieldTokens (Value.mapFields Number.settled fields) ++ ·) := by
  induction fields with
  | nil => simp [Value.writeFields, Value.mapFields, Value.fieldTokens]
  | cons field fields ih =>
      obtain ⟨key, value⟩ := field
      have others := ih fun other member => each other (by simp [member])
      have first := each (key, value) (by simp) depth _
        (continuesNumber_writeFields layout depth fields stop)
      simp only [Value.writeFields, List.cons_append, List.append_assoc]
      rw [tokens?_mark _ (by decide) rfl, tokens?_separators_append (separating.line depth),
        tokens?_writtenKey separating, first, others]
      simp [Value.mapFields, Value.fieldTokens, Value.settled, Function.comp_def]

theorem cutsInto_array (separating : layout.Separating) {items : List Value}
    (each : ∀ item ∈ items, CutsInto layout item item.settled.tokens) :
    CutsInto layout (.array items) (Value.array items).settled.tokens := by
  intro depth rest stop
  cases items with
  | nil =>
      simp only [Value.write, List.cons_append, List.nil_append]
      rw [tokens?_mark _ (by decide) rfl, tokens?_mark _ (by decide) rfl]
      simp [Value.settled, Value.mapNumbers, Value.mapItems, Value.tokens, Function.comp_def]
  | cons first others =>
      have closing : continuesNumber (layout.line depth ++ (']' :: rest)) = false :=
        continuesNumber_of_separators (separating.line depth) rfl
      have head := each first (by simp) (depth + 1) _
        (continuesNumber_writeItems layout (depth + 1) others closing)
      have tail := tokens?_writeItems separating
        (fun other member => each other (List.mem_cons_of_mem _ member)) (depth + 1) closing
      simp only [Value.write, List.cons_append, List.append_assoc, List.nil_append]
      rw [tokens?_mark _ (by decide) rfl, tokens?_separators_append (separating.line _), head,
        tail, tokens?_separators_append (separating.line _), tokens?_mark _ (by decide) rfl]
      simp [Value.settled, Value.mapNumbers, Value.mapItems, Value.tokens, Function.comp_def]

theorem cutsInto_object (separating : layout.Separating) {fields : List (String × Value)}
    (each : ∀ field ∈ fields, CutsInto layout field.2 field.2.settled.tokens) :
    CutsInto layout (.object fields) (Value.object fields).settled.tokens := by
  intro depth rest stop
  cases fields with
  | nil =>
      simp only [Value.write, List.cons_append, List.nil_append]
      rw [tokens?_mark _ (by decide) rfl, tokens?_mark _ (by decide) rfl]
      simp [Value.settled, Value.mapNumbers, Value.mapFields, Value.tokens, Function.comp_def]
  | cons field others =>
      obtain ⟨key, value⟩ := field
      have closing : continuesNumber (layout.line depth ++ ('\x7d' :: rest)) = false :=
        continuesNumber_of_separators (separating.line depth) rfl
      have head := each (key, value) (by simp) (depth + 1) _
        (continuesNumber_writeFields layout (depth + 1) others closing)
      have tail := tokens?_writeFields separating
        (fun other member => each other (List.mem_cons_of_mem _ member)) (depth + 1) closing
      simp only [Value.write, List.cons_append, List.append_assoc, List.nil_append]
      rw [tokens?_mark _ (by decide) rfl, tokens?_separators_append (separating.line _),
        tokens?_writtenKey separating, head, tail,
        tokens?_separators_append (separating.line _), tokens?_mark _ (by decide) rfl]
      simp [Value.settled, Value.mapNumbers, Value.mapFields, Value.tokens, Function.comp_def]

/-- The text of a value is cut into the tokens of the value as it is read. -/
theorem tokens?_write (separating : layout.Separating) {value : Value}
    (wellFormed : value.WellFormed Number.Legible) :
    CutsInto layout value value.settled.tokens := by
  induction wellFormed with
  | null =>
      intro depth rest stop
      exact tokens?_of_token? (by simp [Value.write, isSeparator]) rfl
  | boolean value =>
      intro depth rest stop
      cases value with
      | true => exact tokens?_of_token? (by simp [Value.write, isSeparator]) rfl
      | false => exact tokens?_of_token? (by simp [Value.write, isSeparator]) rfl
  | number legible =>
      intro depth rest stop
      exact tokens?_of_number? (legible rest stop)
  | string text =>
      intro depth rest stop
      exact tokens?_writtenString_append text.toList rest
  | array _ ih => exact cutsInto_array separating ih
  | object _ _ ih => exact cutsInto_object separating ih

end Cutting

end DiagramGraph.Json
