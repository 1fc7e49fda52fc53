import DiagramGraph.Proofs.Text.Part
import DiagramGraph.Proofs.Written.ClassReading

/-!
# Types with arguments in arguments

The arguments of a type are types again, and may have arguments of their own. Types with
arguments are read up to the first closing bracket, and so as they are written if no
argument has arguments. Otherwise the first closing bracket belongs to an argument, and
the type is cut behind that.
-/

namespace DiagramGraph.Written

open DiagramGraph.Text DiagramGraph.ClassLine TypeText

/-! ## Type expressions -/

/-- A dotted path. -/
structure Path where
  text : List Char
  nonempty : text ≠ []
  dotted : ∀ char ∈ text, isPathChar char = true

mutual

/-- A type expression: a dotted path, possibly with arguments, and possibly with the brackets
of an array. -/
inductive TypeExpression where
  | plain (path : Path) (array : Bool)
  | generic (path : Path) (arguments : TypeArguments) (array : Bool)

/-- One or more type expressions. -/
inductive TypeArguments where
  | last (type : TypeExpression)
  | more (type : TypeExpression) (others : TypeArguments)

end

mutual

/-- The type expression as it is written. -/
def TypeExpression.text : TypeExpression → List Char
  | .plain path array => path.text ++ arrayText array
  | .generic path arguments array =>
      path.text ++ ('<' :: (arguments.text ++ '>' :: arrayText array))

/-- The type expressions as they are written, with commas between them. -/
def TypeArguments.text : TypeArguments → List Char
  | .last type => type.text
  | .more type others => type.text ++ (',' :: ' ' :: others.text)

end

/-- Whether a type expression has arguments. -/
def TypeExpression.isGeneric : TypeExpression → Bool
  | plain _ _ => false
  | generic _ _ _ => true

/-- Whether no argument has arguments. -/
def TypeArguments.arePlain : TypeArguments → Bool
  | last type => !type.isGeneric
  | more type others => !type.isGeneric && others.arePlain

/-- Whether no argument of a type expression has arguments. -/
def TypeExpression.isFlat : TypeExpression → Bool
  | plain _ _ => true
  | generic _ arguments _ => arguments.arePlain

/-! ## Brackets -/

/-- Every angle bracket is closed, in the right order. -/
inductive Balanced : List Char → Prop where
  | free {text : List Char} (unopened : '<' ∉ text) (unclosed : '>' ∉ text) : Balanced text
  | enclosed {inner : List Char} (balanced : Balanced inner) : Balanced ('<' :: (inner ++ ['>']))
  | append {front back : List Char} (first : Balanced front) (second : Balanced back) :
      Balanced (front ++ back)

theorem Balanced.count_eq {text : List Char} (balanced : Balanced text) :
    text.count '<' = text.count '>' := by
  induction balanced with
  | free unopened unclosed =>
      rw [List.count_eq_zero_of_not_mem unopened, List.count_eq_zero_of_not_mem unclosed]
  | enclosed balanced ih => simp [ih]
  | append first second ihFirst ihSecond => simp [ihFirst, ihSecond]

theorem Path.notMem (path : Path) {char : Char} (other : isPathChar char = false) :
    char ∉ path.text := by
  intro member
  rw [path.dotted char member] at other
  contradiction

theorem Path.unopened (path : Path) : '<' ∉ path.text :=
  path.notMem (by decide)

theorem Path.unclosed (path : Path) : '>' ∉ path.text :=
  path.notMem (by decide)

theorem Path.single (path : Path) : '\n' ∉ path.text :=
  path.notMem (by decide)

theorem Path.tidy (path : Path) : Tidy path.text :=
  tidy_of_forall path.nonempty fun char member =>
    isBlank_eq_false_of_isPathChar (path.dotted char member)

theorem notMem_arrayText {char : Char} (other : char ≠ '[' ∧ char ≠ ']') (array : Bool) :
    char ∉ arrayText array := by
  cases array <;> simp [arrayText, other]

theorem Balanced.plain (path : Path) (array : Bool) : Balanced (path.text ++ arrayText array) := by
  apply Balanced.append
  · exact .free path.unopened path.unclosed
  · exact .free (notMem_arrayText (by decide) array) (notMem_arrayText (by decide) array)

mutual

theorem TypeExpression.balanced : (type : TypeExpression) → Balanced type.text
  | .plain path array => .plain path array
  | .generic path arguments array => by
      have whole := ((Balanced.plain path false).append arguments.balanced.enclosed).append
        (.free (notMem_arrayText (by decide) array) (notMem_arrayText (by decide) array))
      simpa [TypeExpression.text, arrayText] using whole

theorem TypeArguments.balanced : (arguments : TypeArguments) → Balanced arguments.text
  | .last type => type.balanced
  | .more type others =>
      type.balanced.append
        ((show Balanced [',', ' '] from .free (by decide) (by decide)).append others.balanced)

end

/-! ## Lines -/

mutual

theorem TypeExpression.single : (type : TypeExpression) → '\n' ∉ type.text
  | .plain path array => by
      simp [TypeExpression.text, path.single, notMem_arrayText]
  | .generic path arguments array => by
      simp [TypeExpression.text, path.single, notMem_arrayText, arguments.single]

theorem TypeArguments.single : (arguments : TypeArguments) → '\n' ∉ arguments.text
  | .last type => type.single
  | .more type others => by
      simp [TypeArguments.text, type.single, others.single]

end

theorem tidy_append_arrayText {text : List Char} (tidy : Tidy text) (array : Bool) :
    Tidy (text ++ arrayText array) := by
  cases array with
  | true => exact tidy.append (tidy_iff.2 (by decide))
  | false => simpa [arrayText] using tidy

theorem TypeExpression.tidy (type : TypeExpression) : Tidy type.text := by
  cases type with
  | plain path array => exact tidy_append_arrayText path.tidy array
  | generic path arguments array =>
      have enclosed : Tidy ('<' :: (arguments.text ++ ['>'])) :=
        tidy_enclosed (by decide) (by decide) arguments.single
      have tidy := tidy_append_arrayText (path.tidy.append enclosed) array
      simpa [text] using tidy

/-! ## The first closing bracket -/

theorem TypeExpression.unclosed {type : TypeExpression} (plain : type.isGeneric = false) :
    '>' ∉ type.text := by
  cases type with
  | plain path array =>
      simp [text, path.unclosed, notMem_arrayText]
  | generic path arguments array => contradiction

/-- Arguments without arguments have no brackets. -/
theorem TypeArguments.unclosed : (arguments : TypeArguments) → arguments.arePlain = true →
    '>' ∉ arguments.text
  | .last type, plain => TypeExpression.unclosed (by simpa [arePlain] using plain)
  | .more type others, plain => by
      simp only [arePlain, Bool.and_eq_true, Bool.not_eq_true'] at plain
      simp [text, TypeExpression.unclosed plain.1, others.unclosed plain.2]

/-- The text is cut behind its first closing bracket, and behind the brackets of an array that
follow. -/
structure CutBehind (text front : List Char) (array : Bool) (back : List Char) : Prop where
  split : text = front ++ '>' :: (arrayText array ++ back)
  unclosed : '>' ∉ front
  opened : '<' ∈ front
  stop : ∀ char ∈ back.head?, char = ',' ∨ char = '>'

namespace CutBehind

variable {text front back : List Char} {array : Bool}

/-- What does not close a bracket can stand in front. -/
theorem prepend (cut : CutBehind text front array back) {lead : List Char} (unclosed : '>' ∉ lead) :
    CutBehind (lead ++ text) (lead ++ front) array back where
  split := by rw [cut.split, List.append_assoc]
  unclosed := by simp [unclosed, cut.unclosed]
  opened := List.mem_append_right lead cut.opened
  stop := cut.stop

/-- What begins with a comma or with a closing bracket can stand behind. -/
theorem append (cut : CutBehind text front array back) {mark : Char} (rest : List Char)
    (isMark : mark = ',' ∨ mark = '>') :
    CutBehind (text ++ mark :: rest) front array (back ++ mark :: rest) where
  split := by simp [cut.split]
  unclosed := cut.unclosed
  opened := cut.opened
  stop := by
    cases back with
    | nil =>
        rintro char ⟨⟩
        exact isMark
    | cons first more => exact cut.stop

/-- Arguments that are cut, in their brackets. -/
theorem enclose (cut : CutBehind text front array back) (path : Path) (outer : Bool) :
    CutBehind (path.text ++ ('<' :: (text ++ '>' :: arrayText outer))) (path.text ++ '<' :: front)
      array (back ++ '>' :: arrayText outer) := by
  have lead : '>' ∉ path.text ++ ['<'] := by
    simp [path.unclosed]
  simpa using (cut.prepend lead).append (arrayText outer) (.inr rfl)

/-- Arguments without brackets of their own end where the first bracket closes. -/
theorem closing (path : Path) {inner : List Char} (unclosed : '>' ∉ inner) (array : Bool) :
    CutBehind (path.text ++ ('<' :: (inner ++ '>' :: arrayText array)))
      (path.text ++ '<' :: inner) array [] where
  split := by simp
  unclosed := by simp [path.unclosed, unclosed]
  opened := by simp
  stop := by simp

end CutBehind

-- The bracket that closes first is that of the first argument that has arguments, or of one
-- within that: so the recursion follows the first such argument inwards.
mutual

theorem TypeExpression.exists_cut : (type : TypeExpression) → type.isGeneric = true →
    ∃ front array back, CutBehind type.text front array back
  | .plain path array, generic => by contradiction
  | .generic path arguments array, _ => by
      cases plain : arguments.arePlain with
      | true => exact ⟨_, array, [], .closing path (arguments.unclosed plain) array⟩
      | false =>
          rcases arguments.exists_cut plain with ⟨front, inner, back, cut⟩
          exact ⟨_, _, _, cut.enclose path array⟩

theorem TypeArguments.exists_cut : (arguments : TypeArguments) → arguments.arePlain = false →
    ∃ front array back, CutBehind arguments.text front array back
  | .last type, nested => type.exists_cut (by simpa [TypeArguments.arePlain] using nested)
  | .more type others, nested => by
      cases generic : type.isGeneric with
      | true =>
          rcases type.exists_cut generic with ⟨front, array, back, cut⟩
          exact ⟨_, _, _, cut.append (' ' :: others.text) (.inl rfl)⟩
      | false =>
          have further : others.arePlain = false := by
            simpa [TypeArguments.arePlain, generic] using nested
          rcases others.exists_cut further with ⟨front, array, back, cut⟩
          have lead : '>' ∉ type.text ++ [',', ' '] := by
            simp [TypeExpression.unclosed generic]
          exact ⟨_, _, _, by simpa [TypeArguments.text] using cut.prepend lead⟩

end

/-! ## What is read of a type expression -/

/-- A text up to its first closing bracket, with the brackets of an array if they follow
directly; all of it, if nothing is closed. -/
def untilClosed (text : List Char) : List Char :=
  match upTo? '>' text with
  | some (front, back) => front ++ '>' :: (arrayMark back).1
  | none => text

theorem untilClosed_eq_self {text : List Char} (unclosed : '>' ∉ text) :
    untilClosed text = text := by
  cases found : upTo? '>' text with
  | none => rw [untilClosed, found]
  | some parts =>
      rw [(upTo?_eq found).2] at unclosed
      exact absurd (by simp) unclosed

theorem CutBehind.untilClosed_eq {text front back : List Char} {array : Bool}
    (cut : CutBehind text front array back) :
    untilClosed text = front ++ '>' :: arrayText array := by
  have stop : ∀ char ∈ back.head?, isPathChar char = false ∧ char ≠ '<' ∧ char ≠ '[' := by
    intro char starts
    rcases cut.stop char starts with rfl | rfl <;> decide
  rw [untilClosed, cut.split, upTo?_append cut.unclosed]
  dsimp only
  rw [arrayMark_append stop]

namespace Path

/-- The type without arguments. -/
def asType (path : Path) (array : Bool) : TypeText :=
  ⟨path.text, path.nonempty, path.dotted, none, nofun, array⟩

/-- The type with a text for its arguments that closes no bracket. -/
def asGeneric (path : Path) {inner : List Char} (unclosed : '>' ∉ inner) (single : '\n' ∉ inner)
    (array : Bool) : TypeText :=
  ⟨path.text, path.nonempty, path.dotted, some inner, by simp [unclosed, single], array⟩

theorem text_asGeneric (path : Path) {inner : List Char} (unclosed : '>' ∉ inner)
    (single : '\n' ∉ inner) (array : Bool) :
    (path.asGeneric unclosed single array).text =
      path.text ++ '<' :: inner ++ '>' :: arrayText array := by
  simp [asGeneric, TypeText.text, argumentsText]

end Path

namespace TypeExpression

/-- What is read of a type expression. -/
def recorded (type : TypeExpression) : List Char :=
  untilClosed type.text

/-- What is left of a type expression when it has been read. -/
structure Leaves (type : TypeExpression) (back : List Char) : Prop where
  split : type.text = type.recorded ++ back
  stop : ∀ char ∈ back.head?, char = ',' ∨ char = '>'
  isFlat : back = [] ↔ type.isFlat = true
  read : ∀ pieces, type? (type.text ++ spaced pieces) = some (type.recorded, back ++ spaced pieces)

/-- What is read is a type without arguments in its arguments. -/
theorem leaves_of_split {type : TypeExpression} {cut : TypeText} {back : List Char}
    (recorded : type.recorded = cut.text) (split : type.text = cut.text ++ back)
    (stop : ∀ char ∈ back.head?, char = ',' ∨ char = '>')
    (isFlat : back = [] ↔ type.isFlat = true) : type.Leaves back where
  split := by rw [recorded, split]
  stop := stop
  isFlat := isFlat
  read := by
    intro pieces
    have apart : ∀ char ∈ (back ++ spaced pieces).head?,
        isPathChar char = false ∧ char ≠ '<' ∧ char ≠ '[' := by
      cases back with
      | nil => exact head_spaced_behind pieces
      | cons first more =>
          rintro char ⟨⟩
          rcases stop first rfl with rfl | rfl <;> decide
    rw [split, List.append_assoc, cut.type?_append apart, recorded]

theorem leaves_plain (path : Path) (array : Bool) : (plain path array).Leaves [] := by
  have recorded : (plain path array).recorded = (path.asType array).text :=
    untilClosed_eq_self (unclosed rfl)
  exact leaves_of_split recorded (List.append_nil _).symm (by simp) (by simp [isFlat])

/-- Without arguments in its arguments, a type is read to its end. -/
theorem leaves_generic (path : Path) {arguments : TypeArguments}
    (flat : arguments.arePlain = true) (array : Bool) :
    (generic path arguments array).Leaves [] := by
  have closing := CutBehind.closing path (arguments.unclosed flat) array
  have shape := path.text_asGeneric (arguments.unclosed flat) arguments.single array
  refine leaves_of_split (closing.untilClosed_eq.trans shape.symm) ?_ (by simp)
    (by simp [isFlat, flat])
  rw [shape, text]
  simp

/-- Otherwise it is read to the end of an argument. -/
theorem exists_leaves_generic (path : Path) {arguments : TypeArguments}
    (nested : arguments.arePlain = false) (array : Bool) :
    ∃ back, (generic path arguments array).Leaves back := by
  rcases arguments.exists_cut nested with ⟨front, inner, back, cut⟩
  have whole := cut.enclose path array
  have single : '\n' ∉ front := by
    have lines := arguments.single
    rw [cut.split] at lines
    exact fun member => lines (List.mem_append_left _ member)
  have shape := path.text_asGeneric cut.unclosed single inner
  refine ⟨_, leaves_of_split (whole.untilClosed_eq.trans shape.symm) ?_ whole.stop
    (by simp [isFlat, nested])⟩
  rw [shape, text, whole.split]
  simp

theorem exists_leaves (type : TypeExpression) : ∃ back, type.Leaves back := by
  cases type with
  | plain path array => exact ⟨[], leaves_plain path array⟩
  | generic path arguments array =>
      cases flat : arguments.arePlain with
      | true => exact ⟨[], leaves_generic path flat array⟩
      | false => exact exists_leaves_generic path flat array

/-! ## Types that are cut -/

theorem recorded_prefix (type : TypeExpression) : type.recorded <+: type.text := by
  rcases type.exists_leaves with ⟨back, leaves⟩
  exact ⟨back, leaves.split.symm⟩

theorem recorded_eq_text_iff (type : TypeExpression) :
    type.recorded = type.text ↔ type.isFlat = true := by
  rcases type.exists_leaves with ⟨back, leaves⟩
  rw [← leaves.isFlat, leaves.split, List.self_eq_append_right]

/-- If an argument has arguments, two brackets are opened before one is closed, and nothing
is read behind that one. -/
theorem balanced_recorded_iff (type : TypeExpression) :
    Balanced type.recorded ↔ type.isFlat = true := by
  constructor
  · intro balanced
    cases type with
    | plain path array => rfl
    | generic path arguments array =>
        cases flat : arguments.arePlain with
        | true => exact flat
        | false =>
            rcases arguments.exists_cut flat with ⟨front, inner, back, cut⟩
            have whole := cut.enclose path array
            have recorded : (generic path arguments array).recorded =
                path.text ++ '<' :: front ++ '>' :: arrayText inner := whole.untilClosed_eq
            have opened : 0 < front.count '<' := List.count_pos_iff.2 cut.opened
            have opens : 2 ≤ (path.text ++ '<' :: front ++ '>' :: arrayText inner).count '<' := by
              rw [List.count_append, List.count_append, List.count_cons_self]
              omega
            have closes : (path.text ++ '<' :: front ++ '>' :: arrayText inner).count '>' = 1 := by
              rw [List.count_append, List.count_eq_zero_of_not_mem whole.unclosed,
                List.count_cons_self,
                List.count_eq_zero_of_not_mem (notMem_arrayText (by decide) inner)]
            rw [recorded] at balanced
            have counts := balanced.count_eq
            omega
  · intro flat
    rw [type.recorded_eq_text_iff.2 flat]
    exact type.balanced

end TypeExpression

end DiagramGraph.Written
