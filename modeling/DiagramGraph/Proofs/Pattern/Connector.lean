import DiagramGraph.Connector.Adorned
import DiagramGraph.Connector.Arrow
import DiagramGraph.Connector.CrowsFoot
import DiagramGraph.Proofs.Pattern.Part

/-!
# Connectors as patterns

The connectors of all kinds of diagrams are described by patterns, and each of them is
read by its reader if no further character of it may follow.
-/

namespace DiagramGraph.Pattern

open DiagramGraph.Text

/-! ## Single characters -/

/-- One character of a class. -/
def single? (belongs : Char → Bool) : Reader
  | [] => none
  | char :: rest => if belongs char then some ([char], rest) else none

/-- One character of a class, if it is there. -/
def perhaps (belongs : Char → Bool) : Reader := fun text =>
  some ((single? belongs text).getD ([], text))

theorem splits_single? (belongs : Char → Bool) : Splits (single? belongs) := by
  intro text run rest read
  cases text with
  | nil => contradiction
  | cons char text =>
      rw [single?] at read
      split at read
      · cases read
        rfl
      · contradiction

theorem reads_one (belongs : Char → Bool) :
    (one belongs).Reads (fun _ => false) (single? belongs) where
  first_eq := by
    intro α next _ text
    cases text with
    | nil => rfl
    | cons char rest =>
        rw [first_one_cons, single?]
        split <;> rfl
  splits := splits_single? belongs

theorem reads_optional_one (belongs : Char → Bool) :
    (optional (one belongs)).Reads belongs (perhaps belongs) where
  first_eq := by
    intro α next refuses text
    rw [first_optional, (reads_one belongs).first_eq next (fun _ _ _ => nofun), perhaps]
    cases text with
    | nil => rfl
    | cons char rest =>
        cases inside : belongs char with
        | true =>
            have refused := refuses [] char rest inside
            simp [single?, inside, refused]
        | false => simp [single?, inside]
  splits := by
    intro text run rest read
    rw [perhaps, Option.some.injEq] at read
    cases found : single? belongs text with
    | none =>
        rw [found] at read
        cases read
        rfl
    | some first =>
        rw [found] at read
        cases read
        exact splits_single? belongs found

/-! ## Shafts -/

/-- At least one dash. -/
def dashes : Pattern :=
  run (· == '-')

/-- At least two dots. -/
def dots : Pattern :=
  inOrder [mark '.', run (· == '.')]

/-- At least two dots at the start of a text. -/
def dots? : Reader
  | '.' :: '.' :: rest => run? (· == '.') ('.' :: '.' :: rest)
  | _ => none

theorem reads_dashes : dashes.Reads (· == '-') (run? (· == '-')) :=
  reads_run _

theorem reads_dots : dots.Reads (· == '.') dots? := by
  have reads := (reads_one (· == '.')).cons
    ((reads_run (· == '.')).cons (reads_nil (· == '.')) fun char dot => ⟨rfl, fun _ => dot⟩)
    fun _ => nofun
  refine reads.congr fun text => ?_
  match text with
  | [] => rfl
  | [first] =>
      by_cases dot : first = '.' <;> simp [both, single?, dots?, dot, run?]
  | first :: second :: rest =>
      by_cases dot : first = '.'
      · by_cases again : second = '.' <;> simp [both, single?, dots?, run?_cons, dot, again]
      · simp [both, single?, dots?, dot]

/-- What begins with a dash does not begin with a dot. -/
theorem dots?_eq_none {text : List Char} (dashed : (run? (· == '-') text).isSome) :
    dots? text = none := by
  rw [dots?]
  rintro rest rfl
  simp [run?] at dashed

theorem dashes?_eq_none {text : List Char} (undashed : ∀ rest, text ≠ '-' :: rest) :
    run? (· == '-') text = none := by
  apply run?_eq_none
  intro first starts
  obtain ⟨rest, rfl⟩ := List.head?_eq_some_iff.1 starts
  rw [beq_eq_false_iff_ne]
  rintro rfl
  exact undashed rest rfl

theorem adornedShaft?_eq (text : List Char) :
    AdornedConnector.shaft? text = (run? (· == '-') text).or (dots? text) := by
  unfold AdornedConnector.shaft?
  split
  · next rest =>
      rw [run?_cons]
      rfl
  · rfl
  · next noDash noDots => rw [dashes?_eq_none noDash, dots?, Option.or_none]; exact noDots

theorem linkShaft?_eq (text : List Char) :
    Link.shaft? text = (dots? text).or (run? (· == '-') text) := by
  unfold Link.shaft?
  split
  · rfl
  · rfl
  · next noDots noDash => rw [dashes?_eq_none noDash, dots?, Option.or_none]; exact noDots

/-! ## Connectors of class diagrams -/

/-- A shaft with adornments: `[<*o+#x}^|]*(?:-+|\.{2,})[|>*o+#x{^]*`. -/
def adorned : Pattern :=
  inOrder [many AdornedConnector.leftAdornments.contains, either dashes dots,
    many AdornedConnector.rightAdornments.contains]

/-- Whether a character could make an adorned connector longer. -/
def prolongsAdorned (char : Char) : Bool :=
  char == '-' || char == '.' || AdornedConnector.rightAdornments.contains char

theorem reads_adorned :
    adorned.Reads prolongsAdorned fun text =>
      (AdornedConnector.read? text).map fun read => (read.1.text, read.2) := by
  have shaft : (either dashes dots).Reads (fun char => char == '-' || char == '.')
      fun text => (run? (· == '-') text).or (dots? text) :=
    (reads_dashes.widen (by simp)).either (reads_dots.widen (by simp)) fun _ => dots?_eq_none
  have right := (reads_many AdornedConnector.rightAdornments.contains).cons
    (reads_nil prolongsAdorned) fun char member => ⟨rfl, fun _ => by simp_all [prolongsAdorned]⟩
  have behindShaft : ∀ char, (char == '-' || char == '.') = true →
      (inOrder [many AdornedConnector.rightAdornments.contains]).starts char = false := by
    intro char member
    simp only [Bool.or_eq_true, beq_iff_eq] at member
    rcases member with rfl | rfl <;> decide
  have behindLeft : (AdornedConnector.leftAdornments.any fun char =>
      (inOrder [either dashes dots, many AdornedConnector.rightAdornments.contains]).starts char) =
        false := by
    decide
  have reads := (reads_many AdornedConnector.leftAdornments.contains).cons
    (shaft.cons right fun char member =>
      ⟨behindShaft char member, fun _ => by simp_all [prolongsAdorned]⟩)
    fun char member =>
      ⟨Bool.eq_false_iff.2 (List.any_eq_false.1 behindLeft char (List.contains_iff_mem.1 member)),
        nofun⟩
  refine reads.congr fun text => ?_
  rw [both, AdornedConnector.read?, span, Option.bind_some, both, ← adornedShaft?_eq]
  cases AdornedConnector.shaft? (text.dropWhile AdornedConnector.leftAdornments.contains) with
  | none => rfl
  | some read => simp [both, span, AdornedConnector.text]

/-! ## Arrows of sequence diagrams -/

/-- A dash and further dashes and heads, with a head in front of them if it is there:
`<?-[->]+`. -/
def arrow : Pattern :=
  inOrder [optional (mark '<'), mark '-', run Arrow.isPart]

theorem perhaps_openHead (text : List Char) :
    perhaps (· == '<') text = some (openHead text) := by
  cases text with
  | nil => rfl
  | cons char rest => by_cases opens : char = '<' <;> simp [perhaps, single?, openHead, opens]

theorem perhaps_closeHead (text : List Char) :
    perhaps (· == '>') text = some (closeHead text) := by
  cases text with
  | nil => rfl
  | cons char rest => by_cases closes : char = '>' <;> simp [perhaps, single?, closeHead, closes]

theorem reads_arrow : arrow.Reads Arrow.isPart Arrow.read? := by
  have parts := (reads_run Arrow.isPart).cons (reads_nil Arrow.isPart)
    fun char member => ⟨rfl, fun _ => member⟩
  have reads := (reads_optional_one (· == '<')).cons
    ((reads_one (· == '-')).cons parts fun _ => nofun)
    fun char member => ⟨by simp_all [inOrder, starts, nullable], nofun⟩
  refine reads.congr fun text => ?_
  rw [both, perhaps_openHead, Option.bind_some, Arrow.read?]
  dsimp only
  split
  · next rest shape =>
      rw [shape]
      cases found : run? Arrow.isPart rest <;> simp [both, single?, found]
  · next undashed =>
      cases shape : (openHead text).2 with
      | nil => rfl
      | cons char rest =>
          have apart : char ≠ '-' := by
            rintro rfl
            exact undashed rest shape
          simp [both, single?, apart]

/-! ## Links of use-case diagrams -/

/-- A shaft with heads, if they are there. -/
def headed (shaft : Pattern) : Pattern :=
  inOrder [optional (mark '<'), shaft, optional (mark '>')]

/-- A dotted or a solid link: `<?\.\.+>?|<?-+>?`. -/
def link : Pattern :=
  either (headed dots) (headed dashes)

/-- Whether a character could make a link longer. -/
def prolongsLink (char : Char) : Bool :=
  char == '-' || char == '.' || char == '>'

/-- A shaft with its heads. -/
def headed? (shaft? : Reader) : Reader := fun text =>
  (shaft? (openHead text).2).map fun read =>
    ((openHead text).1 ++ (read.1 ++ (closeHead read.2).1), (closeHead read.2).2)

theorem reads_headed {shaft : Pattern} {shaft? : Reader} {char : Char}
    (reads : shaft.Reads (· == char) shaft?) (solid : shaft.nullable = false)
    (separate : shaft.starts '<' = false) (pointless : char ≠ '>')
    (prolongs : prolongsLink char = true) :
    (headed shaft).Reads prolongsLink (headed? shaft?) := by
  have tail := (reads_optional_one (· == '>')).cons (reads_nil prolongsLink)
    fun other head => ⟨rfl, fun _ => by simp_all [prolongsLink]⟩
  have reads := (reads_optional_one (· == '<')).cons
    (reads.cons tail fun other same => by
      rw [beq_iff_eq] at same
      rw [same]
      exact ⟨by simp [inOrder, starts, nullable, pointless], fun _ => prolongs⟩)
    fun other same => by
      rw [beq_iff_eq] at same
      rw [same]
      simp [inOrder, starts, nullable, solid, separate]
  refine reads.congr fun text => ?_
  rw [both, perhaps_openHead, Option.bind_some, both, headed?]
  cases shaft? (openHead text).2 with
  | none => rfl
  | some read => simp [both, perhaps_closeHead]

theorem reads_link : link.Reads prolongsLink Link.read? := by
  have dotted := reads_headed reads_dots rfl (by decide) (by decide) (by decide)
  have solid := reads_headed reads_dashes rfl (by decide) (by decide) (by decide)
  have reads := dotted.either solid fun text found => by
    rw [headed?, Option.isSome_map] at found
    rw [headed?, Option.map_eq_none_iff, Option.eq_none_iff_forall_ne_some]
    intro read dashed
    rw [dots?_eq_none (by rw [dashed]; rfl)] at found
    contradiction
  refine reads.congr fun text => ?_
  rw [headed?, headed?, Link.read?]
  dsimp only
  rw [linkShaft?_eq]
  cases dots? (openHead text).2 with
  | some read => simp
  | none => cases run? (· == '-') (openHead text).2 <;> simp

/-! ## Crow's feet -/

/-- Up to two characters, each from a class of its own. -/
def pairOf (outer inner : Char → Bool) : Pattern :=
  inOrder [optional (one outer), optional (one inner)]

/-- Whether a text is made of up to two characters, each from a class of its own. -/
def isPairOf (outer inner : Char → Bool) : List Char → Bool
  | [] => true
  | [single] => outer single || inner single
  | [first, second] => outer first && inner second
  | _ => false

/-- The run of a class, if it is a pair. -/
def pairOf? (outer inner whole : Char → Bool) : Reader := fun text =>
  if isPairOf outer inner (text.takeWhile whole) then
    some (text.takeWhile whole, text.dropWhile whole)
  else none

/-- The outer character is taken if it is there and one can go on behind it. -/
theorem first_pairOf {α : Type} {outer inner : Char → Bool} {next : Captures → List Char → Option α}
    (refuses : Refuses inner next) (text : List Char) :
    (pairOf outer inner).first next text =
      ((single? outer text).bind fun read =>
        next [] ((single? inner read.2).getD ([], read.2)).2).or
          (next [] ((single? inner text).getD ([], text)).2) := by
  rw [pairOf, first_inOrder_cons, first_optional, (reads_one outer).first_eq _ fun _ _ _ => nofun]
  simp only [first_inOrder_singleton, List.nil_append,
    (reads_optional_one inner).first_eq next refuses, perhaps, Option.bind_some]

/-- If nothing goes on with a character of a class that holds both characters of a pair,
then the run of that class has to be a pair. -/
theorem reads_pairOf {outer inner whole : Char → Bool}
    (outerInside : ∀ char, outer char = true → whole char = true)
    (innerInside : ∀ char, inner char = true → whole char = true) :
    (pairOf outer inner).Reads whole (pairOf? outer inner whole) where
  first_eq := by
    intro α next refuses text
    have refused {char : Char} (inside : whole char = true) (rest : List Char) :
        next [] (char :: rest) = none := refuses [] char rest inside
    have outside {belongs : Char → Bool} {char : Char}
        (part : ∀ char, belongs char = true → whole char = true) (other : whole char = false) :
        belongs char = false := by
      rw [← Bool.not_eq_true] at other ⊢
      exact mt (part char) other
    rw [first_pairOf fun captures char rest member =>
      refuses captures char rest (innerInside char member), pairOf?]
    -- Up to two characters of the class may stand in front; from a third one on nothing goes.
    cases text with
    | nil => simp [single?, isPairOf]
    | cons first rest =>
        cases inside : whole first with
        | false =>
            simp [single?, isPairOf, inside, outside outerInside inside, outside innerInside inside]
        | true =>
            have unread := refused inside rest
            cases rest with
            | nil =>
                cases inOuter : outer first <;> cases inInner : inner first <;>
                  simp [single?, isPairOf, inside, inOuter, inInner, unread]
            | cons second rest =>
                cases insideSecond : whole second with
                | false =>
                    have notInner := outside innerInside insideSecond
                    cases inOuter : outer first <;> cases inInner : inner first <;>
                      simp [single?, isPairOf, inside, insideSecond, inOuter, inInner, notInner,
                        unread]
                | true =>
                    have unreadSecond := refused insideSecond rest
                    cases inOuter : outer first <;> cases inInner : inner first <;>
                      cases innerSecond : inner second <;>
                    cases rest with
                    | nil =>
                        simp [single?, isPairOf, inside, insideSecond, inOuter, inInner,
                          innerSecond, unread, unreadSecond]
                    | cons third rest =>
                        cases insideThird : whole third <;>
                          simp [single?, isPairOf, inside, insideSecond, insideThird, inOuter,
                            inInner, innerSecond, unread, unreadSecond, refused]
  splits := by
    intro text run rest read
    unfold pairOf? at read
    split at read
    · cases read
      exact List.takeWhile_append_dropWhile.symm
    · contradiction

/-- Whether a character stands next to the shaft of a crow's foot. -/
def isInnerChar (char : Char) : Bool :=
  char == '|' || char == 'o'

/-- Exactly two dashes or two dots. -/
def shortShaft : Pattern :=
  either (literal ['-', '-']) (literal ['.', '.'])

/-- A short shaft with ends of up to two characters:
`[|o}]?[|o]?(?:--|\.\.)[|o]?[|o{]?`. -/
def crowsFoot : Pattern :=
  inOrder [pairOf CrowsFoot.isLeftChar isInnerChar, shortShaft,
    pairOf isInnerChar CrowsFoot.isRightChar]

theorem reads_literal (opening : List Char) :
    (literal opening).Reads (fun _ => false) fun text =>
      (after? opening text).map fun rest => (opening, rest) where
  first_eq := by
    intro α next _ text
    rw [first_literal, Option.bind_map]
    rfl
  splits := by
    intro text run rest read
    obtain ⟨behind, opened, same⟩ := Option.map_eq_some_iff.1 read
    cases same
    exact after?_eq_some_iff.1 opened

theorem reads_shortShaft : shortShaft.Reads (fun _ => false) CrowsFoot.shaft? := by
  have reads := (reads_literal ['-', '-']).either (reads_literal ['.', '.']) fun text dashed => by
    rw [Option.isSome_map] at dashed
    obtain ⟨rest, opened⟩ := Option.isSome_iff_exists.1 dashed
    rw [after?_eq_some_iff.1 opened]
    rfl
  refine reads.congr fun text => ?_
  unfold CrowsFoot.shaft?
  split
  · rfl
  · rfl
  · next noDashes noDots =>
      have dashes : after? ['-', '-'] text = none :=
        Option.eq_none_iff_forall_ne_some.2 fun rest opened =>
          noDashes rest (after?_eq_some_iff.1 opened)
      have dots : after? ['.', '.'] text = none :=
        Option.eq_none_iff_forall_ne_some.2 fun rest opened =>
          noDots rest (after?_eq_some_iff.1 opened)
      rw [dashes, dots]
      rfl

theorem isLeftEnd_eq (text : List Char) :
    CrowsFoot.isLeftEnd text = isPairOf CrowsFoot.isLeftChar isInnerChar text := by
  match text with
  | [] => rfl
  | [single] =>
      rw [CrowsFoot.isLeftEnd, isPairOf, CrowsFoot.isLeftChar, isInnerChar]
      cases single == '|' <;> cases single == 'o' <;> simp
  | [_, _] => rfl
  | _ :: _ :: _ :: _ => rfl

theorem isRightEnd_eq (text : List Char) :
    CrowsFoot.isRightEnd text = isPairOf isInnerChar CrowsFoot.isRightChar text := by
  match text with
  | [] => rfl
  | [single] =>
      rw [CrowsFoot.isRightEnd, isPairOf, CrowsFoot.isRightChar, isInnerChar]
      cases single == '|' <;> cases single == 'o' <;> simp
  | [_, _] => rfl
  | _ :: _ :: _ :: _ => rfl

theorem reads_crowsFoot : crowsFoot.Reads CrowsFoot.isRightChar CrowsFoot.read? := by
  have innerLeft : ∀ char, isInnerChar char = true → CrowsFoot.isLeftChar char = true :=
    fun _ inner => by simp_all [isInnerChar, CrowsFoot.isLeftChar]
  have innerRight : ∀ char, isInnerChar char = true → CrowsFoot.isRightChar char = true :=
    fun _ inner => by simp_all [isInnerChar, CrowsFoot.isRightChar]
  have behindLeft : ∀ char, CrowsFoot.isLeftChar char = true →
      (inOrder [shortShaft, pairOf isInnerChar CrowsFoot.isRightChar]).starts char = false := by
    intro char member
    simp only [CrowsFoot.isLeftChar, Bool.or_eq_true, beq_iff_eq] at member
    rcases member with (rfl | rfl) | rfl <;> decide
  have right := (reads_pairOf innerRight fun _ => id).cons (reads_nil CrowsFoot.isRightChar)
    fun _ member => ⟨rfl, fun _ => member⟩
  have reads := (reads_pairOf (fun _ => id) innerLeft).cons
    (reads_shortShaft.cons right fun _ => nofun) fun char member => ⟨behindLeft char member, nofun⟩
  refine reads.congr fun text => ?_
  rw [both, pairOf?, CrowsFoot.read?, isLeftEnd_eq]
  cases shaft : CrowsFoot.shaft? (text.dropWhile CrowsFoot.isLeftChar) with
  | none => split <;> simp [both, shaft]
  | some read =>
      dsimp only [Option.bind_eq_bind, Option.bind_some]
      rw [isRightEnd_eq]
      cases isPairOf CrowsFoot.isLeftChar isInnerChar (text.takeWhile CrowsFoot.isLeftChar) <;>
        cases ends : isPairOf isInnerChar CrowsFoot.isRightChar
          (read.2.takeWhile CrowsFoot.isRightChar) <;>
        simp [both, shaft, pairOf?, ends]

end DiagramGraph.Pattern
