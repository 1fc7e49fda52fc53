import DiagramGraph.Proofs.Written.Source

/-!
# Introductions

The participants of sequence diagrams, and the actors and use cases of use-case
diagrams, are introduced by a keyword, a name and possibly an alias. What is
introduced is read back, and a line on which no name follows the first word
introduces nothing.
-/

namespace DiagramGraph.Written

open DiagramGraph.Text

/-- A name that is introduced, possibly with an alias. -/
structure Introduced where
  name : Name
  aliasWord : Option Word

namespace Introduced

/-- The name with its alias, as it is written. -/
def namedText (introduced : Introduced) : List Char :=
  introduced.name.written ++ spaced (aliasPieces introduced.aliasWord)

/-- The line that introduces the name behind a keyword. -/
def text (introduced : Introduced) (keyword : Word) : List Char :=
  keyword.text ++ (' ' :: introduced.namedText)

/-- The element of a certain type that is introduced. -/
def meaning (introduced : Introduced) (type : String) : Element :=
  { type
    name := String.ofList introduced.name.text
    aliasName := introduced.aliasWord.map fun word => String.ofList word.text }

theorem tidy_namedText (introduced : Introduced) : Tidy introduced.namedText :=
  tidy_spaced introduced.name.tidy tidy_aliasPieces

theorem isLine (introduced : Introduced) (keyword : Word) : IsLine (introduced.text keyword) := by
  apply keyword.isLine_append
  have blank : '\n' ∉ [' '] := by decide
  exact keyword.tidy.join introduced.tidy_namedText blank

theorem leadingWord?_text (introduced : Introduced) (keyword : Word) :
    leadingWord? (introduced.text keyword) = some (keyword.text, introduced.namedText) := by
  have visible := introduced.tidy_namedText.head_append []
  rw [List.append_nil] at visible
  exact keyword.leadingWord?_behind visible

theorem named?_namedText (introduced : Introduced) :
    Declaration.named? introduced.namedText =
      some ⟨introduced.name.text, introduced.aliasWord.map Word.text, []⟩ := by
  have unrelated : Unrelated [] := nofun
  have read := named?_spaced introduced.name introduced.aliasWord unrelated
  rwa [List.append_nil] at read

/-- What is introduced by a keyword from a table is read as an element of the type
that the table gives. -/
theorem readAny?_text (introduced : Introduced) {keyword : Word} {table : List (String × String)}
    {type : String} (listed : table.lookup (String.ofList keyword.text) = some type) :
    (Declaration.readAny? table (introduced.text keyword)).map
        (fun (type, declaration) => declaration.element type) =
      some (introduced.meaning type) := by
  simp [Declaration.readAny?, introduced.leadingWord?_text, listed, introduced.named?_namedText,
    Declaration.element, meaning, Function.comp_def]

end Introduced

/-! ## Lines that introduce nothing -/

/-- A name begins with a quote or with a word character. -/
theorem named?_eq_none {text : List Char}
    (other : ∀ char ∈ text.head?, char ≠ '"' ∧ isWord char = false) :
    Declaration.named? text = none := by
  have unquoted : quoted? text = none := quoted?_eq_none fun char starts => (other char starts).1
  have noWord : word? text = none := run?_eq_none fun char starts => (other char starts).2
  simp [Declaration.named?, namePart?, name?, unquoted, noWord]

/-- Without a name behind the first word, nothing is introduced. -/
theorem Word.readAny?_eq_none (word : Word) {rest : List Char}
    (stop : ∀ char ∈ rest.head?, isWord char = false)
    (other : ∀ char ∈ (trimStart rest).head?, char ≠ '"' ∧ isWord char = false)
    (table : List (String × String)) : Declaration.readAny? table (word.text ++ rest) = none := by
  have first := word.word?_append stop
  cases skipped : gap? rest with
  | none => simp [Declaration.readAny?, leadingWord?, first, skipped]
  | some behind =>
      rcases gap?_eq_some_iff.1 skipped with ⟨gap, -, blank, visible, rfl⟩
      rw [trimStart_append blank visible] at other
      simp [Declaration.readAny?, leadingWord?, first, skipped, named?_eq_none other]

end DiagramGraph.Written
