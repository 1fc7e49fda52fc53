import DiagramGraph.Connector.Arrow
import DiagramGraph.Proofs.Detection.Evidence
import DiagramGraph.Proofs.Written.ClassReading

/-!
# Written arrows and links

The arrows of sequence diagrams and the links of use-case diagrams. Both are read
back as they are written, up to what cannot continue them. Neither begins like a
name, so a line with one of them behind its first word declares nothing.
-/

namespace DiagramGraph.Written

open DiagramGraph.Text

/-- The head in front of an arrow or a link, if it has one. -/
def openingText (opened : Bool) : List Char :=
  if opened then ['<'] else []

/-- The head in front of a text is told from the text. -/
theorem openHead_append (opened : Bool) {first : Char} (other : first ≠ '<') (rest : List Char) :
    openHead (openingText opened ++ first :: rest) = (openingText opened, first :: rest) := by
  cases opened with
  | true => rfl
  | false =>
      rw [openingText, if_neg (by decide), List.nil_append, openHead]
      rintro more ⟨rfl⟩
      exact other rfl

/-- A text begins like a connector: with a character that is visible and does not
begin a name. -/
def BeginsConnector (text : List Char) : Prop :=
  ∀ char ∈ text.head?, isBlank char = false ∧ char ≠ '"' ∧ isWord char = false

/-! ## Arrows -/

/-- An arrow: a dash with at least one further dash or head behind it, and
possibly a head in front. -/
structure ArrowGlyph where
  opened : Bool
  parts : List Char
  nonempty : parts ≠ []
  drawn : ∀ char ∈ parts, char = '-' ∨ char = '>'

namespace ArrowGlyph

/-- The arrow as it is written. -/
def text (arrow : ArrowGlyph) : List Char :=
  openingText arrow.opened ++ '-' :: arrow.parts

theorem isPart_of_mem_parts (arrow : ArrowGlyph) :
    ∀ char ∈ arrow.parts, Arrow.isPart char = true := by
  intro char member
  rcases arrow.drawn char member with rfl | rfl
  · decide
  · decide

theorem tidy (arrow : ArrowGlyph) : Tidy arrow.text := by
  have dash : isBlank '-' = false := by decide
  have head : isBlank '>' = false := by decide
  have parts : Tidy ('-' :: arrow.parts) := by
    apply tidy_of_forall (List.cons_ne_nil _ _)
    rw [List.forall_mem_cons]
    constructor
    · exact dash
    · intro char member
      rcases arrow.drawn char member with rfl | rfl
      · exact dash
      · exact head
  rw [text]
  cases arrow.opened with
  | true => exact Tidy.append (tidy_iff.2 (by decide)) parts
  | false => exact parts

theorem beginsConnector (arrow : ArrowGlyph) (rest : List Char) :
    BeginsConnector (arrow.text ++ rest) := by
  rw [text]
  cases arrow.opened with
  | true =>
      rintro char ⟨⟩
      decide
  | false =>
      rintro char ⟨⟩
      decide

/-- An arrow is read up to what is neither a dash nor a head. -/
theorem read?_append (arrow : ArrowGlyph) {rest : List Char}
    (stop : ∀ char ∈ rest.head?, Arrow.isPart char = false) :
    Arrow.read? (arrow.text ++ rest) = some (arrow.text, rest) := by
  have opening := openHead_append arrow.opened (by decide : '-' ≠ '<') (arrow.parts ++ rest)
  have parts := run?_append arrow.nonempty arrow.isPart_of_mem_parts stop
  rw [Arrow.read?, text, List.append_assoc, List.cons_append, opening]
  simp [parts]

end ArrowGlyph

/-- An arrow is dashed if two dashes stand side by side in it. -/
theorem isDashed_iff {arrow : List Char} :
    Arrow.isDashed arrow = true ↔ ['-', '-'] <:+: arrow := by
  fun_induction Arrow.isDashed arrow with
  | case1 rest =>
      rw [Detection.arrow_cons_iff]
      simp
  | case2 char rest other ih =>
      have apart : ¬ (char = '-' ∧ rest.head? = some '-') := by
        rintro ⟨dash, starts⟩
        rcases List.head?_eq_some_iff.1 starts with ⟨more, same⟩
        exact other more dash same
      rw [ih, Detection.arrow_cons_iff]
      simp only [apart, false_or]
  | case3 => simp

/-! ## Links -/

/-- A link: a shaft with or without a head at each end. -/
structure LinkGlyph where
  opened : Bool
  shaft : Shaft
  closed : Bool

/-- The head behind a link, if it has one. -/
def closingText (closed : Bool) : List Char :=
  if closed then ['>'] else []

/-- A shaft is read alike in a link and in a connector of a class diagram. -/
theorem linkShaft?_eq (text : List Char) : Link.shaft? text = AdornedConnector.shaft? text := by
  unfold Link.shaft? AdornedConnector.shaft?
  split
  · rfl
  · rfl
  · next noDots noDash =>
      split
      · exact absurd rfl (noDash _)
      · exact absurd rfl (noDots _)
      · rfl

theorem Shaft.linkShaft?_append (shaft : Shaft) {rest : List Char}
    (stop : ∀ char ∈ rest.head?, char ≠ '-' ∧ char ≠ '.') :
    Link.shaft? (shaft.text ++ rest) = some (shaft.text, rest) := by
  rw [linkShaft?_eq, shaft.shaft?_append stop]

theorem Shaft.exists_cons (shaft : Shaft) :
    ∃ first more, shaft.text = first :: more ∧ (first = '-' ∨ first = '.') := by
  cases shaft with
  | dashes more => exact ⟨'-', _, rfl, .inl rfl⟩
  | dots more => exact ⟨'.', _, rfl, .inr rfl⟩

theorem Shaft.tidy (shaft : Shaft) : Tidy shaft.text := by
  rcases shaft.exists_cons with ⟨first, more, shape, -⟩
  apply tidy_of_forall (by simp [shape])
  intro char member
  rcases shaft.forall_mem char member with rfl | rfl
  · decide
  · decide

namespace LinkGlyph

/-- The link as it is written. -/
def text (link : LinkGlyph) : List Char :=
  openingText link.opened ++ (link.shaft.text ++ closingText link.closed)

/-- The kind of relationship that a link makes: a dotted one is an inclusion. -/
def kind (link : LinkGlyph) : RelationshipKind :=
  match link.shaft with
  | .dots _ => .inclusion
  | .dashes _ => .association

/-- The kind shows in whether there is a dot in the link. -/
theorem isDotted_text (link : LinkGlyph) :
    (if Link.isDotted link.text then RelationshipKind.inclusion else .association) = link.kind := by
  have heads : '.' ∉ openingText link.opened ∧ '.' ∉ closingText link.closed := by
    cases link.opened <;> cases link.closed <;> decide
  rw [kind, Link.isDotted]
  cases shape : link.shaft with
  | dashes more =>
      have plain : '.' ∉ Shaft.text (.dashes more) := by simp [Shaft.text]
      have undotted : '.' ∉ link.text := by simp [text, heads, shape, plain]
      simp [undotted]
  | dots more =>
      have dot : '.' ∈ link.text := by simp [text, shape, Shaft.text]
      simp [dot]

theorem tidy (link : LinkGlyph) : Tidy link.text := by
  have closed : Tidy (link.shaft.text ++ closingText link.closed) := by
    cases link.closed with
    | true => exact link.shaft.tidy.append (tidy_iff.2 (by decide))
    | false => simpa [closingText] using link.shaft.tidy
  rw [text]
  cases link.opened with
  | true => exact Tidy.append (tidy_iff.2 (by decide)) closed
  | false => exact closed

theorem beginsConnector (link : LinkGlyph) (rest : List Char) :
    BeginsConnector (link.text ++ rest) := by
  rcases link.shaft.exists_cons with ⟨first, more, shape, dash | dot⟩
  all_goals
    rw [text, shape]
    cases link.opened with
    | true =>
        rintro char ⟨⟩
        decide
    | false =>
        rintro char ⟨⟩
        subst first
        decide

/-- A link is read up to the blank behind it. -/
theorem read?_append (link : LinkGlyph) {rest : List Char}
    (blank : ∀ char ∈ rest.head?, isBlank char = true) :
    Link.read? (link.text ++ rest) = some (link.text, rest) := by
  rcases link.shaft.exists_cons with ⟨first, more, shape, drawn⟩
  have other : first ≠ '<' := by
    rcases drawn with rfl | rfl
    · decide
    · decide
  have opening := openHead_append link.opened other (more ++ (closingText link.closed ++ rest))
  have stop : ∀ char ∈ (closingText link.closed ++ rest).head?, char ≠ '-' ∧ char ≠ '.' := by
    cases link.closed with
    | true =>
        rintro char ⟨⟩
        decide
    | false => exact fun char starts => ne_shaft_of_isBlank (blank char starts)
  have shaft := link.shaft.linkShaft?_append stop
  have closing : closeHead (closingText link.closed ++ rest) = (closingText link.closed, rest) := by
    cases link.closed with
    | true => rfl
    | false =>
        rw [closingText, if_neg (by decide), List.nil_append, closeHead]
        rintro more rfl
        exact absurd (blank '>' rfl) (by decide)
  rw [← List.cons_append, ← shape] at opening
  simp [Link.read?, text, opening, shaft, closing]

theorem read?_behind (link : LinkGlyph) (rest : List Char) :
    Link.read? (link.text ++ ' ' :: rest) = some (link.text, ' ' :: rest) :=
  link.read?_append (by rintro char ⟨⟩; decide)

end LinkGlyph

end DiagramGraph.Written
