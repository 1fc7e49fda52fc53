import DiagramGraph.Proofs.Json.RoundTrip
import DiagramGraph.Proofs.Text.Tidy

/-!
# Renderings of values

A value can be laid out in many ways: any separators may stand around its
tokens, and a string may be spelled with any escapes. A rendering is any such
text. Every rendering of a value without doubles is read as that value, also
after the blanks around it have been trimmed away, and what the writer puts down
is a rendering.
-/

namespace DiagramGraph.Json

open DiagramGraph.Text

/-! ## Spelled tokens -/

/-- How a token may be written, doubles apart. -/
inductive Token.Spelled : Token → List Char → Prop where
  | openArray : Spelled .openArray ['[']
  | closeArray : Spelled .closeArray [']']
  | openObject : Spelled .openObject ['\x7b']
  | closeObject : Spelled .closeObject ['\x7d']
  | comma : Spelled .comma [',']
  | colon : Spelled .colon [':']
  | string {text body : List Char} (spelled : StringSpelled text body) :
      Spelled (.string text) ('"' :: (body ++ ['"']))
  | integer (value : Int) : Spelled (.number (.integer value)) (integerText value)
  | yes : Spelled (.boolean true) ['t', 'r', 'u', 'e']
  | no : Spelled (.boolean false) ['f', 'a', 'l', 's', 'e']
  | null : Spelled .null ['n', 'u', 'l', 'l']

/-- The tokens are written one behind the other in a text, with separators around
them. -/
inductive Spells : List Token → List Char → Prop where
  | nil {blanks : List Char} (separators : ∀ char ∈ blanks, isSeparator char = true) :
      Spells [] blanks
  | cons {blanks spelling rest : List Char} {token : Token} {tokens : List Token}
      (separators : ∀ char ∈ blanks, isSeparator char = true) (spelled : token.Spelled spelling)
      (others : Spells tokens rest) : Spells (token :: tokens) (blanks ++ (spelling ++ rest))

/-- The text is made of the tokens of the value. -/
def Value.Renders (value : Value) (text : List Char) : Prop :=
  Spells value.tokens text

/-- Whether a token is a number. -/
def Token.isNumber : Token → Bool
  | .number _ => true
  | _ => false

theorem isBlank_of_isSeparator {char : Char} (separator : isSeparator char = true) :
    isBlank char = true := by
  simp only [isSeparator, Bool.or_eq_true, beq_iff_eq] at separator
  rcases separator with ((rfl | rfl) | rfl) | rfl <;> decide

theorem isBlank_eq_false_of_isDigit {char : Char} (digit : char.isDigit = true) :
    isBlank char = false := by
  apply isBlank_eq_false_of_isWord
  apply isWord_of_isAlphanum
  simp [Char.isAlphanum, digit]

/-- What the text of an integer is made of. -/
theorem forall_integerText (value : Int) :
    integerText value ≠ [] ∧ ∀ char ∈ integerText value, char.isDigit = true ∨ char = '-' := by
  have digits (magnitude : Nat) : ∀ char ∈ Nat.toDigits 10 magnitude, char.isDigit = true :=
    fun char member => Nat.isDigit_of_mem_toDigits (by decide) (by decide) member
  cases value with
  | ofNat value => exact ⟨Nat.toDigits_ne_nil, fun char member => .inl (digits value char member)⟩
  | negSucc value =>
      refine ⟨List.cons_ne_nil _ _, ?_⟩
      intro char member
      rcases List.mem_cons.1 member with rfl | member
      · exact .inr rfl
      · exact .inl (digits _ char member)

/-- A spelled token has a visible character at both ends. The first one does not
begin an address, and only a number could go on with a number in front of it. -/
structure Token.Bounded (token : Token) (spelling : List Char) : Prop where
  start : ∃ first ∈ spelling.head?, isBlank first = false ∧ first ≠ 'h'
  finish : ∃ last ∈ spelling.getLast?, isBlank last = false
  apart : token.isNumber = false → continuesNumber spelling = false

theorem Token.Spelled.bounded {token : Token} {spelling : List Char}
    (spelled : token.Spelled spelling) : token.Bounded spelling := by
  cases spelled with
  | openArray | closeArray | openObject | closeObject | comma | colon | yes | no | null =>
      exact ⟨⟨_, rfl, by decide⟩, ⟨_, rfl, by decide⟩, fun _ => rfl⟩
  | @string text body spelled =>
      refine ⟨⟨'"', rfl, by decide⟩, ⟨'"', ?_, by decide⟩, fun _ => rfl⟩
      rw [← List.cons_append, List.getLast?_append]
      rfl
  | integer value =>
      obtain ⟨nonempty, each⟩ := forall_integerText value
      have visible : ∀ char ∈ integerText value, isBlank char = false ∧ char ≠ 'h' := by
        intro char member
        rcases each char member with digit | rfl
        · refine ⟨isBlank_eq_false_of_isDigit digit, ?_⟩
          rintro rfl
          contradiction
        · decide
      refine ⟨⟨_, List.head?_eq_some_head nonempty, visible _ (List.head_mem nonempty)⟩, ?_, ?_⟩
      · exact ⟨_, List.getLast?_eq_some_getLast nonempty, (visible _ (List.getLast_mem nonempty)).1⟩
      · nofun

/-- A spelled token is read, whatever follows it; behind a number, that may not
continue it. -/
theorem token?_of_spelled {token : Token} {spelling rest : List Char}
    (spelled : token.Spelled spelling)
    (exact : ∀ value, token = .number value → value.Exact ∧ continuesNumber rest = false) :
    token? (spelling ++ rest) = some (token, rest) := by
  cases spelled with
  | openArray | closeArray | openObject | closeObject | comma | colon | yes | no | null => rfl
  | string spelled =>
      simpa using token?_of_stringSpelled spelled rest
  | integer value =>
      obtain ⟨⟨bounds⟩, stop⟩ := exact _ rfl
      exact token?_of_number? (number?_integerText bounds stop)

/-! ## Tokens that are kept apart -/

/-- Every number is exact, and no number follows directly on another one. -/
inductive Apart : List Token → Prop where
  | nil : Apart []
  | other {token : Token} {tokens : List Token} (other : token.isNumber = false)
      (others : Apart tokens) : Apart (token :: tokens)
  | number {value : Number} {tokens : List Token} (exact : value.Exact)
      (next : ∀ token ∈ tokens.head?, token.isNumber = false) (others : Apart tokens) :
      Apart (.number value :: tokens)

/-- What is to be shown of a value: its tokens are kept apart, if what follows
begins with no number. -/
def KeptApart (tokens : List Token) : Prop :=
  ∀ more, Apart more → (∀ token ∈ more.head?, token.isNumber = false) → Apart (tokens ++ more)

theorem apart_itemTokens {items : List Value} (each : ∀ item ∈ items, KeptApart item.tokens)
    {more : List Token} (apart : Apart more)
    (next : ∀ token ∈ more.head?, token.isNumber = false) :
    Apart (Value.itemTokens items ++ more) ∧
      ∀ token ∈ (Value.itemTokens items ++ more).head?, token.isNumber = false := by
  induction items with
  | nil => exact ⟨apart, next⟩
  | cons item items ih =>
      obtain ⟨others, nextOther⟩ :=
        ih fun other member => each other (List.mem_cons_of_mem _ member)
      rw [Value.itemTokens, List.cons_append, List.append_assoc]
      refine ⟨.other rfl (each item List.mem_cons_self _ others nextOther), ?_⟩
      rintro token ⟨⟩
      rfl

theorem apart_fieldTokens {fields : List (String × Value)}
    (each : ∀ field ∈ fields, KeptApart field.2.tokens) {more : List Token} (apart : Apart more)
    (next : ∀ token ∈ more.head?, token.isNumber = false) :
    Apart (Value.fieldTokens fields ++ more) ∧
      ∀ token ∈ (Value.fieldTokens fields ++ more).head?, token.isNumber = false := by
  induction fields with
  | nil => exact ⟨apart, next⟩
  | cons field fields ih =>
      obtain ⟨key, value⟩ := field
      obtain ⟨others, nextOther⟩ :=
        ih fun other member => each other (List.mem_cons_of_mem _ member)
      rw [Value.fieldTokens, List.cons_append, List.cons_append, List.cons_append,
        List.append_assoc]
      have tail := each (key, value) List.mem_cons_self _ others nextOther
      refine ⟨.other rfl (.other rfl (.other rfl tail)), ?_⟩
      rintro token ⟨⟩
      rfl

/-- A closing bracket ends whatever stands in front of it. -/
theorem apart_close (token : Token) (other : token.isNumber = false) {more : List Token}
    (apart : Apart more) :
    Apart (token :: more) ∧ ∀ next ∈ (token :: more).head?, next.isNumber = false := by
  refine ⟨.other other apart, ?_⟩
  rintro next ⟨⟩
  exact other

/-- The tokens of a value are kept apart. -/
theorem keptApart_tokens {value : Value} (wellFormed : value.WellFormed Number.Exact) :
    KeptApart value.tokens := by
  induction wellFormed with
  | null => exact fun more apart _ => .other rfl apart
  | boolean value => exact fun more apart _ => .other rfl apart
  | number exact => exact fun more apart next => .number exact next apart
  | string text => exact fun more apart _ => .other rfl apart
  -- an item is followed by a comma or by the closing bracket, never by a number
  | @array items _ each =>
      intro more apart _
      obtain ⟨closed, next⟩ := apart_close .closeArray rfl apart
      cases items with
      | nil => exact .other rfl closed
      | cons first rest =>
          obtain ⟨others, nextOther⟩ :=
            apart_itemTokens (fun other member => each other (List.mem_cons_of_mem _ member))
              closed next
          have tail := each first List.mem_cons_self _ others nextOther
          simp only [Value.tokens, List.cons_append, List.append_assoc, List.nil_append]
          exact .other rfl tail
  | @object fields _ _ each =>
      intro more apart _
      obtain ⟨closed, next⟩ := apart_close .closeObject rfl apart
      cases fields with
      | nil => exact .other rfl closed
      | cons field rest =>
          obtain ⟨key, value⟩ := field
          obtain ⟨others, nextOther⟩ :=
            apart_fieldTokens (fun other member => each other (List.mem_cons_of_mem _ member))
              closed next
          have tail := each (key, value) List.mem_cons_self _ others nextOther
          simp only [Value.tokens, List.cons_append, List.append_assoc, List.nil_append]
          exact .other rfl (.other rfl (.other rfl tail))

/-! ## Reading a rendering -/

namespace Spells

variable {tokens : List Token} {text : List Char}

theorem empty : Spells [] [] :=
  .nil nofun

/-- Separators in front leave no trace. -/
theorem behind {blanks : List Char} (separators : ∀ char ∈ blanks, isSeparator char = true)
    (spells : Spells tokens text) : Spells tokens (blanks ++ text) := by
  have together {more : List Char} (further : ∀ char ∈ more, isSeparator char = true) :
      ∀ char ∈ blanks ++ more, isSeparator char = true := by
    intro char member
    rcases List.mem_append.1 member with member | member
    · exact separators char member
    · exact further char member
  cases spells with
  | nil further => exact .nil (together further)
  | cons further spelled others =>
      rw [← List.append_assoc]
      exact .cons (together further) spelled others

theorem front {token : Token} {spelling : List Char} (spelled : token.Spelled spelling)
    (others : Spells tokens text) : Spells (token :: tokens) (spelling ++ text) := by
  have spells : Spells (token :: tokens) ([] ++ (spelling ++ text)) :=
    .cons nofun spelled others
  exact spells

theorem append {front back : List Token} {first second : List Char}
    (spellsFront : Spells front first) (spellsBack : Spells back second) :
    Spells (front ++ back) (first ++ second) := by
  induction spellsFront with
  | nil separators => exact spellsBack.behind separators
  | cons separators spelled _ ih =>
      rw [List.cons_append, List.append_assoc, List.append_assoc]
      exact .cons separators spelled ih

/-- A number is not continued by what begins with another token. -/
theorem continuesNumber_eq_false (spells : Spells tokens text)
    (next : ∀ token ∈ tokens.head?, token.isNumber = false) : continuesNumber text = false := by
  cases spells with
  | nil separators =>
      have stop : continuesNumber (text ++ []) = false :=
        continuesNumber_of_separators separators rfl
      rwa [List.append_nil] at stop
  | cons separators spelled others =>
      apply continuesNumber_of_separators separators
      have bounded := spelled.bounded
      obtain ⟨first, starts, -⟩ := bounded.start
      obtain ⟨more, rfl⟩ := List.head?_eq_some_iff.1 starts
      exact bounded.apart (next _ rfl)

/-- Tokens that are kept apart are read as they are spelled. -/
theorem tokens?_eq (spells : Spells tokens text) (apart : Apart tokens) :
    tokens? text = some tokens := by
  induction spells with
  | @nil blanks separators =>
      have none_left : tokens? (blanks ++ []) = tokens? [] := tokens?_separators_append separators
      rw [List.append_nil] at none_left
      rw [none_left, tokens?]
  | @cons blanks spelling rest token tokens separators spelled others ih =>
      have visible : ∀ char ∈ (spelling ++ rest).head?, isSeparator char = false := by
        obtain ⟨first, starts, ink, -⟩ := spelled.bounded.start
        obtain ⟨more, rfl⟩ := List.head?_eq_some_iff.1 starts
        rintro char ⟨⟩
        cases separator : isSeparator first with
        | false => rfl
        | true =>
            rw [isBlank_of_isSeparator separator] at ink
            contradiction
      rw [tokens?_separators_append separators]
      cases apart with
      | other other apart =>
          have read : token? (spelling ++ rest) = some (token, rest) := by
            apply token?_of_spelled spelled
            rintro value rfl
            contradiction
          rw [tokens?_of_token? visible read, ih apart]
          rfl
      | @number value _ exact next apart =>
          have read : token? (spelling ++ rest) = some (.number value, rest) := by
            apply token?_of_spelled spelled
            rintro other ⟨⟩
            exact ⟨exact, others.continuesNumber_eq_false next⟩
          rw [tokens?_of_token? visible read, ih apart]
          rfl

end Spells

/-- A rendering of a value without doubles is read as that value. -/
theorem read?_of_renders {value : Value} {text : List Char}
    (wellFormed : value.WellFormed Number.Exact) {limit : Nat} (shallow : value.depth ≤ limit)
    (renders : value.Renders text) : read? limit text = some value := by
  have apart := keptApart_tokens wellFormed [] .nil nofun
  rw [List.append_nil] at apart
  have recognised := State.run_tokens wellFormed [] [] (by simpa using shallow)
  rw [List.append_nil] at recognised
  simp [read?, renders.tokens?_eq apart, recognised, State.deliver, State.run]

/-! ## Trimming a rendering -/

/-- Separators are blanks. -/
theorem forall_isBlank {blanks : List Char}
    (separators : ∀ char ∈ blanks, isSeparator char = true) :
    ∀ char ∈ blanks, isBlank char = true :=
  fun char member => isBlank_of_isSeparator (separators char member)

theorem trimStart_eq_nil {blanks : List Char} (blank : ∀ char ∈ blanks, isBlank char = true) :
    Text.trimStart blanks = [] := by
  have nothing : Text.trimStart (blanks ++ []) = [] := trimStart_append blank nofun
  rwa [List.append_nil] at nothing

namespace Spells

variable {tokens : List Token} {text : List Char}

theorem trimStart (spells : Spells tokens text) : Spells tokens (Text.trimStart text) := by
  cases spells with
  | nil separators =>
      rw [trimStart_eq_nil (forall_isBlank separators)]
      exact .empty
  | @cons blanks spelling rest _ _ separators spelled others =>
      have visible : ∀ char ∈ (spelling ++ rest).head?, isBlank char = false := by
        obtain ⟨first, starts, ink, -⟩ := spelled.bounded.start
        obtain ⟨more, rfl⟩ := List.head?_eq_some_iff.1 starts
        rintro char ⟨⟩
        exact ink
      rw [trimStart_append (forall_isBlank separators) visible]
      exact front spelled others

theorem trimEnd (spells : Spells tokens text) : Spells tokens (Text.trimEnd text) := by
  induction spells with
  | @nil blanks separators =>
      have reversed : ∀ char ∈ blanks.reverse, isBlank char = true := by
        simpa using forall_isBlank separators
      rw [Text.trimEnd, trimStart_eq_nil reversed]
      exact .empty
  | @cons blanks spelling rest token tokens separators spelled _ ih =>
      -- the end of the first token is visible, so only the later part can lose anything
      obtain ⟨last, ends, visible⟩ := spelled.bounded.finish
      have finish : ∃ last ∈ (blanks ++ spelling).getLast?, isBlank last = false :=
        ⟨last, by simp [List.getLast?_append, Option.mem_def.1 ends], visible⟩
      rw [← List.append_assoc, trimEnd_append finish, List.append_assoc]
      exact .cons separators spelled ih

/-- Trimming leaves a rendering a rendering. -/
theorem trim (spells : Spells tokens text) : Spells tokens (Text.trim text) :=
  spells.trimStart.trimEnd

/-- Nothing that is made of tokens begins like an address. -/
theorem head_ne (spells : Spells tokens text) : ∀ char ∈ text.head?, char ≠ 'h' := by
  have separate {blanks : List Char} (separators : ∀ char ∈ blanks, isSeparator char = true) :
      ∀ char ∈ blanks.head?, char ≠ 'h' := by
    rintro char starts rfl
    exact absurd (separators 'h' (List.mem_of_mem_head? starts)) (by decide)
  cases spells with
  | nil separators => exact separate separators
  | @cons blanks spelling rest token tokens separators spelled others =>
      obtain ⟨first, starts, -, other⟩ := spelled.bounded.start
      intro char member
      rw [List.head?_append, List.head?_append, Option.mem_def.1 starts, Option.some_or] at member
      cases shape : blanks.head? with
      | none =>
          rw [shape] at member
          cases member
          exact other
      | some blank =>
          rw [shape] at member
          cases member
          exact separate separators _ shape

end Spells

/-! ## What the writer puts down -/

/-- A number without fraction and exponent, of any size. -/
inductive Number.IsInteger : Number → Prop where
  | integer (value : Int) : IsInteger (.integer value)

theorem Number.Exact.isInteger {number : Number} (exact : number.Exact) : number.IsInteger := by
  obtain ⟨-⟩ := exact
  exact .integer _

/-- A written string is spelled as one. -/
theorem spelled_writtenString (text : List Char) :
    (Token.string text).Spelled (writtenString text) :=
  .string (stringSpelled_writtenChars text)

section Writing

variable {layout : Layout}

theorem spells_writtenKey (separating : layout.Separating) (key : String) {tokens : List Token}
    {rest : List Char} (others : Spells tokens rest) :
    Spells (.string key.toList :: .colon :: tokens) (Value.writtenKey layout key ++ rest) := by
  simp only [Value.writtenKey, List.append_assoc, List.cons_append]
  exact .front (spelled_writtenString key.toList)
    (.front .colon (others.behind separating.afterColon))

theorem spells_writeItems (separating : layout.Separating) {items : List Value}
    (each : ∀ item ∈ items, ∀ depth, item.Renders (item.write layout depth)) (depth : Nat) :
    Spells (Value.itemTokens items) (Value.writeItems layout depth items) := by
  induction items with
  | nil => exact .empty
  | cons item items ih =>
      have others := ih fun other member => each other (List.mem_cons_of_mem _ member)
      have first := each item List.mem_cons_self depth
      simp only [Value.writeItems, Value.itemTokens, List.cons_append, List.append_assoc]
      exact .front .comma ((first.append others).behind (separating.line depth))

theorem spells_writeFields (separating : layout.Separating) {fields : List (String × Value)}
    (each : ∀ field ∈ fields, ∀ depth, field.2.Renders (field.2.write layout depth))
    (depth : Nat) : Spells (Value.fieldTokens fields) (Value.writeFields layout depth fields) := by
  induction fields with
  | nil => exact .empty
  | cons field fields ih =>
      obtain ⟨key, value⟩ := field
      have others := ih fun other member => each other (List.mem_cons_of_mem _ member)
      have first : value.Renders _ := each (key, value) List.mem_cons_self depth
      simp only [Value.writeFields, Value.fieldTokens, List.cons_append, List.append_assoc]
      exact .front .comma
        ((spells_writtenKey separating key (first.append others)).behind (separating.line depth))

/-- A closing bracket on a line of its own. -/
theorem spells_close (separating : layout.Separating) {token : Token} {bracket : Char}
    (spelled : token.Spelled [bracket]) (depth : Nat) :
    Spells [token] (layout.line depth ++ [bracket]) :=
  (Spells.front spelled .empty).behind (separating.line depth)

/-- The text of a value without doubles is a rendering of it. -/
theorem renders_write (separating : layout.Separating) {value : Value}
    (wellFormed : value.WellFormed Number.IsInteger) (depth : Nat) :
    value.Renders (value.write layout depth) := by
  induction wellFormed generalizing depth with
  | null => exact .front .null .empty
  | boolean value =>
      cases value with
      | true => exact .front .yes .empty
      | false => exact .front .no .empty
  | number integer =>
      obtain ⟨value⟩ := integer
      have spells := Spells.front (.integer value) .empty
      rwa [List.append_nil] at spells
  | string text =>
      have spells := Spells.front (spelled_writtenString text.toList) .empty
      rwa [List.append_nil] at spells
  | @array items _ each =>
      cases items with
      | nil => exact .front .openArray (.front .closeArray .empty)
      | cons first rest =>
          have head := each first List.mem_cons_self (depth + 1)
          have tail := spells_writeItems separating
            (fun other member => each other (List.mem_cons_of_mem _ member)) (depth + 1)
          have inner := head.append (tail.append (spells_close separating .closeArray depth))
          simp only [Value.Renders, Value.tokens, Value.write, List.cons_append, List.append_assoc]
          exact .front .openArray (inner.behind (separating.line (depth + 1)))
  | @object fields _ _ each =>
      cases fields with
      | nil => exact .front .openObject (.front .closeObject .empty)
      | cons field rest =>
          obtain ⟨key, value⟩ := field
          have head : value.Renders _ := each (key, value) List.mem_cons_self (depth + 1)
          have tail := spells_writeFields separating
            (fun other member => each other (List.mem_cons_of_mem _ member)) (depth + 1)
          have inner := spells_writtenKey separating key
            (head.append (tail.append (spells_close separating .closeObject depth)))
          simp only [Value.Renders, Value.tokens, Value.write, List.cons_append, List.append_assoc]
          exact .front .openObject (inner.behind (separating.line (depth + 1)))

end Writing

end DiagramGraph.Json
