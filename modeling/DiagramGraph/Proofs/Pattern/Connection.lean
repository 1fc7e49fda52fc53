import DiagramGraph.Proofs.Entry.QuotedTexts
import DiagramGraph.Proofs.Pattern.Connector
import DiagramGraph.Proofs.Pattern.Rule

/-!
# Connections as patterns

A connection joins two words by a connector and may have a label. In class diagrams it
stands at the start of a line, elsewhere it is looked for anywhere. A connection that is
found inside of a word is found from the start of the word as well, so it does no harm
that readers only look where words begin.
-/

namespace DiagramGraph

open DiagramGraph.Text DiagramGraph.Pattern

/-! ## Connections in parts -/

/-- A connection in parts, with the text behind it. -/
structure Joined where
  source : List Char
  connector : List Char
  target : List Char
  rest : List Char

namespace Joined

/-- The groups of a connection. -/
def captures (joined : Joined) : Captures :=
  (1, joined.source) :: (2, joined.connector) :: (3, joined.target) ::
    captured 4 (closingText? ':' joined.rest)

/-- The label of a connection. -/
def label (joined : Joined) : Option String :=
  (label? joined.rest).map String.ofList

end Joined

namespace Pattern

/-- The second word of a connection, and its label. -/
def target : List Pattern :=
  [group 3 word, optional (closing ':' 4)]

/-- A connection: two words, and what stands between them. -/
def connection (between : List Pattern) : Pattern :=
  inOrder (group 1 word :: (between ++ target))

/-- Two words with a connector and more between them. -/
def joined? (between? : Reader) (text : List Char) : Option Joined :=
  (word? text).bind fun source =>
    (between? source.2).bind fun connector =>
      (word? connector.2).map fun target => ⟨source.1, connector.1, target.1, target.2⟩

/-- Patterns between two words describe what a reader takes, and the connector is the
second group of the line. -/
structure Joins (between : List Pattern) (between? : Reader) : Prop where
  apart : (inOrder (between ++ target)).Apart isWord
  first_eq : ∀ {α : Type} (next : Captures → List Char → Option α) (text : List Char),
    (inOrder (between ++ target)).first next text =
      (between? text).bind fun read =>
        (inOrder target).first (fun more => next ((2, read.1) :: more)) read.2
  suffix : ∀ {text connector rest}, between? text = some (connector, rest) → rest <:+ text

section Connections

variable {between : List Pattern} {between? : Reader} {text : List Char}

theorem first_target {α : Type} (single : '\n' ∉ text) (made : Captures → α) :
    (inOrder target).first (fun captures _ => some (made captures)) text =
      (word? text).map fun read =>
        made ((3, read.1) :: captured 4 (closingText? ':' read.2)) := by
  have total := total_cons (total_optional (closing ':' 4)) total_nil
  rw [target, readsLast_word.first_group_cons 3 total fun _ _ => rfl, Option.map_eq_bind]
  refine Option.bind_congr fun read reading => ?_
  have singleRest := single_of_suffix (suffix_of_word? reading) single
  exact first_closing_last (by decide) 4 singleRest fun more => made ((3, read.1) :: more)

theorem captures?_connection (joins : Joins between between?) (single : '\n' ∉ text) :
    (connection between).captures? text = (joined? between? text).map Joined.captures := by
  rw [captures?_eq_first, connection, reads_word.first_group_cons 1 joins.apart, joined?,
    Option.map_bind]
  refine Option.bind_congr fun source reading => ?_
  have singleRest := single_of_suffix (suffix_of_word? reading) single
  rw [joins.first_eq, Function.comp_apply, Option.map_bind]
  refine Option.bind_congr fun connector between => ?_
  rw [first_target (single_of_suffix (joins.suffix between) singleRest) fun captures =>
    (1, source.1) :: (2, connector.1) :: captures, Function.comp_apply, Option.map_map]
  rfl

/-! ## Anywhere in a line -/

/-- What is found from a place in a word is found from the start of the word, so it is
enough to look where words begin. -/
theorem search?_eq {β : Type} {pattern : Pattern} {reader : List Char → Option β}
    {capturesOf : β → Captures}
    (found : ∀ text, '\n' ∉ text → pattern.captures? text = (reader text).map capturesOf)
    (solid : reader [] = none)
    (prolongs : ∀ char rest, isWord char = true → (reader rest).isSome →
      (reader (char :: rest)).isSome)
    (single : '\n' ∉ text) :
    pattern.search? text = (firstAtWord reader false text).map capturesOf := by
  -- Inside of a word nothing is found, because nothing was found from the place in front.
  have general (inWord : Bool) (inside : inWord = true → reader text = none) :
      pattern.search? text = (firstAtWord reader inWord text).map capturesOf := by
    induction text generalizing inWord with
    | nil => rw [search?, found [] single, solid, firstAtWord]
    | cons char rest ih =>
        have singleRest := single_of_suffix (List.suffix_cons char rest) single
        have ifInside :
            (if inWord then none else reader (char :: rest)) = reader (char :: rest) := by
          split
          · next within => exact (inside within).symm
          · rfl
        rw [search?, firstAtWord, ifInside, found (char :: rest) single]
        cases here : reader (char :: rest) with
        | some read => rfl
        | none =>
            refine ih singleRest (isWord char) fun within => ?_
            rw [← Option.not_isSome_iff_eq_none]
            intro there
            have earlier := prolongs char rest within there
            rw [here] at earlier
            contradiction
  exact general false fun within => absurd within Bool.false_ne_true

theorem isSome_joined?_cons {char : Char} (inside : isWord char = true)
    (found : (joined? between? text).isSome) : (joined? between? (char :: text)).isSome := by
  obtain ⟨joined, found⟩ := Option.isSome_iff_exists.1 found
  obtain ⟨source, reading, found⟩ := Option.bind_eq_some_iff.1 found
  obtain ⟨connector, between, found⟩ := Option.bind_eq_some_iff.1 found
  obtain ⟨target, behind, -⟩ := Option.map_eq_some_iff.1 found
  obtain ⟨-, taken, dropped⟩ := run?_eq_some_iff.1 reading
  have longer : word? (char :: text) = some (char :: source.1, source.2) := by
    rw [word?, run?_cons, if_pos inside, taken, dropped]
  simp [joined?, longer, between, behind]

theorem search?_connection (joins : Joins between between?) (single : '\n' ∉ text) :
    (connection between).search? text =
      (firstAtWord (joined? between?) false text).map Joined.captures :=
  search?_eq (fun _ => captures?_connection joins) rfl
    (fun _ _ inside => isSome_joined?_cons inside) single

end Connections

theorem firstAtWord_map {β γ : Type} {reader : List Char → Option β} (made : β → γ) (inWord : Bool)
    (text : List Char) :
    firstAtWord (fun text => (reader text).map made) inWord text =
      (firstAtWord reader inWord text).map made := by
  induction text generalizing inWord with
  | nil => rfl
  | cons char rest ih =>
      rw [firstAtWord, firstAtWord]
      cases inWord with
      | true => exact ih (isWord char)
      | false =>
          cases here : reader (char :: rest) with
          | none => simpa [here] using ih (isWord char)
          | some read => simp

/-! ## Connectors in gaps -/

/-- A connector with gaps around it. -/
def gapped? (reader : Reader) : Reader := fun text =>
  (gap? text).bind fun rest =>
    (reader rest).bind fun read => (gap? read.2).map fun behind => (read.1, behind)

theorem apart_target : (inOrder target).Apart isBlank :=
  apart_group 3 (apart_run fun _ => isWord_eq_false_of_isBlank)

theorem joins_gapped {connector : Pattern} {follow : Char → Bool} {reader : Reader}
    (reads : connector.Reads follow reader)
    (visible : ∀ char, follow char = true → isBlank char = false)
    (apart : connector.Apart isBlank) : Joins [gap, group 2 connector, gap] (gapped? reader) where
  apart := apart_run fun _ => isBlank_eq_false_of_isWord
  first_eq := by
    intro α next text
    have apartConnector : (inOrder (group 2 connector :: gap :: target)).Apart isBlank :=
      apart_group 2 (apart_cons apart.solid apart.separate)
    have apartGap : (inOrder (gap :: target)).Apart follow := apart_run visible
    change (inOrder (gap :: group 2 connector :: gap :: target)).first next text = _
    rw [first_gap_cons apartConnector, gapped?, Option.bind_assoc]
    refine Option.bind_congr fun rest _ => ?_
    rw [reads.first_group_cons 2 apartGap, Option.bind_assoc]
    refine Option.bind_congr fun read _ => ?_
    rw [first_gap_cons apart_target, Option.bind_map]
    rfl
  suffix := by
    intro text written behind read
    obtain ⟨rest, gapBefore, read⟩ := Option.bind_eq_some_iff.1 read
    obtain ⟨found, reading, read⟩ := Option.bind_eq_some_iff.1 read
    obtain ⟨remaining, gapBehind, same⟩ := Option.map_eq_some_iff.1 read
    cases same
    calc
      behind <:+ found.2 := suffix_of_gap? gapBehind
      _ <:+ rest := suffix_of_splits reads.splits reading
      _ <:+ text := suffix_of_gap? gapBefore

/-! ## Connectors with blanks -/

/-- A connector with blanks around it, or none. -/
def spaced? (reader : Reader) : Reader := fun text =>
  (reader (trimStart text)).map fun read => (read.1, trimStart read.2)

theorem apart_arrow {follow : Char → Bool} {patterns : List Pattern} (noHead : follow '<' = false)
    (noDash : follow '-' = false) : (inOrder (group 2 arrow :: patterns)).Apart follow := by
  refine apart_group 2 (apart_cons rfl fun char member => ?_)
  have head : (char == '<') = false := separate_mark noHead char member
  have dash : (char == '-') = false := separate_mark noDash char member
  simp [arrow, mark, inOrder, starts, nullable, head, dash]

/-- The characters of an arrow are neither blank nor in words. -/
theorem separate_isPart {char : Char} (part : Arrow.isPart char = true) :
    isWord char = false ∧ isBlank char = false := by
  simp only [Arrow.isPart, Bool.or_eq_true, beq_iff_eq] at part
  rcases part with rfl | rfl <;> decide

theorem joins_arrow : Joins [blanks, group 2 arrow, blanks] (spaced? Arrow.read?) where
  apart := Apart.cons (apart_arrow (by decide) (by decide)) fun _ => isBlank_eq_false_of_isWord
  first_eq := by
    intro α next text
    have apartArrow : (inOrder (group 2 arrow :: blanks :: target)).Apart isBlank :=
      apart_arrow (by decide) (by decide)
    have apartWord : (inOrder target).Apart Arrow.isPart :=
      apart_group 3 (apart_run fun _ part => (separate_isPart part).1)
    have apartBlanks : (inOrder (blanks :: target)).Apart Arrow.isPart :=
      apartWord.cons fun _ part => (separate_isPart part).2
    change (inOrder (blanks :: group 2 arrow :: blanks :: target)).first next text = _
    rw [first_blanks_cons apartArrow, reads_arrow.first_group_cons 2 apartBlanks, spaced?,
      Option.bind_map]
    refine Option.bind_congr fun read _ => ?_
    rw [first_blanks_cons apart_target]
    rfl
  suffix := by
    intro text written behind read
    obtain ⟨found, reading, same⟩ := Option.map_eq_some_iff.1 read
    cases same
    calc
      trimStart found.2 <:+ found.2 := suffix_of_trimStart found.2
      _ <:+ trimStart text := suffix_of_splits reads_arrow.splits reading
      _ <:+ text := suffix_of_trimStart text

/-! ## Connectors with quoted texts -/

/-- A quoted text and a gap: `"[^"]*"\s+`. -/
def quotedGap : Pattern :=
  inOrder [mark '"', many (isOther '"'), mark '"', gap]

/-- Whether a quoted text or a gap may begin with a character. -/
def isBlankOrQuote (char : Char) : Bool :=
  isBlank char || char == '"'

theorem skipQuoted?_eq (text : List Char) :
    ClassLine.skipQuoted? text =
      match after? ['"'] text with
      | some rest => (upTo? '"' rest).bind fun read => gap? read.2
      | none => some text := by
  cases text with
  | nil => rfl
  | cons char rest => by_cases quote : char = '"' <;> simp [ClassLine.skipQuoted?, after?, quote]

theorem first_quotedGap {α : Type} {next : Captures → List Char → Option α} {text : List Char}
    (refuses : Refuses isBlank next) :
    quotedGap.first next text =
      (after? ['"'] text).bind fun rest =>
        (upTo? '"' rest).bind fun read => (gap? read.2).bind (next []) := by
  rw [quotedGap, first_mark_cons]
  refine Option.bind_congr fun rest _ => ?_
  rw [first_upTo_cons]
  refine Option.bind_congr fun read _ => ?_
  rw [first_inOrder_singleton, gap, (reads_run isBlank).first_eq next refuses, gap?_eq_run?,
    Option.bind_map]
  rfl

theorem first_quotedGap_cons {α : Type} {next : Captures → List Char → Option α} {text : List Char}
    {patterns : List Pattern} (apart : (inOrder patterns).Apart isBlankOrQuote) :
    (inOrder (optional quotedGap :: patterns)).first next text =
      (ClassLine.skipQuoted? text).bind ((inOrder patterns).first next) := by
  have refuses : Refuses isBlank fun captures =>
      (inOrder patterns).first fun more => next (captures ++ more) :=
    fun captures char rest blank =>
      first_eq_none (apart.ways_eq (by simp [isBlankOrQuote, blank]) rest)
  rw [first_inOrder_cons, first_optional, first_quotedGap refuses, skipQuoted?_eq]
  cases opened : after? ['"'] text with
  | none => rfl
  | some rest =>
      -- What follows cannot begin with the quote, so the quoted text is not left out.
      have skipped : (inOrder patterns).first next text = none := by
        rw [after?_eq_some_iff.1 opened]
        exact first_eq_none (apart.ways_eq rfl rest)
      simp only [List.nil_append, skipped, Option.bind_some, Option.or_none, Option.bind_assoc]

theorem separate_quotedGap (char : Char) (blank : isBlank char = true) :
    (optional quotedGap).starts char = false := by
  have noQuote : (char == '"') = false := separate_mark (by decide) char blank
  simp [quotedGap, mark, inOrder, starts, nullable, noQuote]

theorem isWord_eq_false_of_isBlankOrQuote {char : Char} (member : isBlankOrQuote char = true) :
    isWord char = false := by
  rcases Bool.or_eq_true_iff.1 member with blank | quote
  · exact isWord_eq_false_of_isBlank blank
  · rw [beq_iff_eq] at quote
    rw [quote]
    decide

theorem isBlank_eq_false_of_prolongsAdorned {char : Char} (prolongs : prolongsAdorned char = true) :
    isBlank char = false := by
  have visible : ('-' :: '.' :: AdornedConnector.rightAdornments).any isBlank = false := by
    decide
  rw [← Bool.not_eq_true]
  apply List.any_eq_false.1 visible
  simp only [prolongsAdorned, Bool.or_eq_true, beq_iff_eq, List.contains_iff_mem] at prolongs
  simpa [or_assoc] using prolongs

/-- An adorned connector begins neither with a blank nor with a quote. -/
theorem apart_adorned : adorned.Apart isBlankOrQuote := by
  refine apart_of_starts rfl (fun char begins => ?_)
    (by decide : ('-' :: '.' :: AdornedConnector.leftAdornments).any isBlankOrQuote = false)
  have listed : char ∈ AdornedConnector.leftAdornments ∨ char = '-' ∨ char = '.' := by
    simpa [adorned, dashes, dots, run, mark, inOrder, starts, nullable] using begins
  rcases listed with left | rfl | rfl
  · exact List.mem_cons_of_mem _ (List.mem_cons_of_mem _ left)
  · decide
  · decide

/-- A connector in gaps, with quoted texts around it. -/
def quotedGaps? (text : List Char) : Option (List Char × List Char) :=
  (gap? text).bind fun rest =>
    (ClassLine.skipQuoted? rest).bind fun rest =>
      (AdornedConnector.read? rest).bind fun read =>
        (gap? read.2).bind fun rest =>
          (ClassLine.skipQuoted? rest).map fun behind => (read.1.text, behind)

theorem joins_adorned :
    Joins [gap, optional quotedGap, group 2 adorned, gap, optional quotedGap] quotedGaps? where
  apart := apart_run fun _ => isBlank_eq_false_of_isWord
  first_eq := by
    intro α next text
    have apartTarget : (inOrder target).Apart isBlankOrQuote :=
      apart_group 3 (apart_run fun _ => isWord_eq_false_of_isBlankOrQuote)
    have apartQuoted : (inOrder (optional quotedGap :: target)).Apart isBlank :=
      apart_target.cons separate_quotedGap
    have apartGap : (inOrder (gap :: optional quotedGap :: target)).Apart prolongsAdorned :=
      apart_run fun _ => isBlank_eq_false_of_prolongsAdorned
    have apartAdorned : (inOrder (group 2 adorned :: gap :: optional quotedGap :: target)).Apart
        isBlankOrQuote :=
      apart_group 2 (apart_cons rfl apart_adorned.separate)
    have apartOpening : (inOrder (optional quotedGap :: group 2 adorned :: gap ::
        optional quotedGap :: target)).Apart isBlank :=
      Apart.cons (apart_group 2 (apart_cons rfl fun char blank =>
        apart_adorned.separate char (by rw [isBlankOrQuote, blank, Bool.true_or])))
        separate_quotedGap
    change (inOrder (gap :: optional quotedGap :: group 2 adorned :: gap :: optional quotedGap ::
      target)).first next text = _
    rw [first_gap_cons apartOpening, quotedGaps?, Option.bind_assoc]
    refine Option.bind_congr fun rest _ => ?_
    rw [first_quotedGap_cons apartAdorned, Option.bind_assoc]
    refine Option.bind_congr fun rest _ => ?_
    rw [reads_adorned.first_group_cons 2 apartGap, Option.bind_map, Option.bind_assoc]
    refine Option.bind_congr fun read _ => ?_
    rw [Function.comp_apply, first_gap_cons apartQuoted, Option.bind_assoc]
    refine Option.bind_congr fun rest _ => ?_
    rw [first_quotedGap_cons apartTarget, Option.bind_map]
    rfl
  suffix := by
    intro text written behind read
    obtain ⟨rest, gapBefore, read⟩ := Option.bind_eq_some_iff.1 read
    obtain ⟨unquoted, quotedBefore, read⟩ := Option.bind_eq_some_iff.1 read
    obtain ⟨found, reading, read⟩ := Option.bind_eq_some_iff.1 read
    obtain ⟨remaining, gapBehind, read⟩ := Option.bind_eq_some_iff.1 read
    obtain ⟨last, quotedBehind, same⟩ := Option.map_eq_some_iff.1 read
    cases same
    calc
      behind <:+ remaining := ClassLine.suffix_of_skipQuoted? quotedBehind
      _ <:+ found.2 := suffix_of_gap? gapBehind
      _ <:+ unquoted := AdornedConnector.suffix_of_read? reading
      _ <:+ rest := ClassLine.suffix_of_skipQuoted? quotedBefore
      _ <:+ text := suffix_of_gap? gapBefore

theorem joins_link : Joins [gap, group 2 link, gap] (gapped? Link.read?) := by
  refine joins_gapped reads_link (fun char prolongs => ?_) ?_
  · simp only [prolongsLink, Bool.or_eq_true, beq_iff_eq] at prolongs
    rcases prolongs with (rfl | rfl) | rfl <;> decide
  · refine apart_of_starts rfl (fun char begins => ?_)
      (by decide : ['<', '.', '<', '-'].any isBlank = false)
    simpa [link, headed, dashes, dots, run, mark, inOrder, starts, nullable, or_assoc] using begins

theorem joins_crowsFoot : Joins [gap, group 2 crowsFoot, gap] (gapped? CrowsFoot.read?) := by
  refine joins_gapped reads_crowsFoot (fun char prolongs => ?_) ?_
  · simp only [CrowsFoot.isRightChar, Bool.or_eq_true, beq_iff_eq] at prolongs
    rcases prolongs with (rfl | rfl) | rfl <;> decide
  · refine apart_of_starts rfl (fun char begins => ?_)
      (by decide : ['|', 'o', '\x7d', '|', 'o', '-', '.'].any isBlank = false)
    simpa [crowsFoot, pairOf, shortShaft, literal, mark, inOrder, starts, nullable, isInnerChar,
      CrowsFoot.isLeftChar, or_assoc] using begins

/-! ## Quoted texts anywhere in a line -/

/-- A quoted text that is not empty: `"([^"]+)"`. -/
def quotedText : Pattern :=
  inOrder [mark '"', group 1 (run (isOther '"')), mark '"']

theorem at?_quotedText (text : List Char) :
    quotedText.at? text =
      (after? ['"'] text).bind fun rest =>
        (run? (isOther '"') rest).bind fun read =>
          (after? ['"'] read.2).map fun behind => ([(1, read.1)], behind) := by
  have apart : (inOrder [mark '"']).Apart (isOther '"') := apart_cons rfl (separate_isOther '"')
  rw [at?_eq_first, quotedText, first_mark_cons]
  refine Option.bind_congr fun rest _ => ?_
  rw [(reads_run _).first_group_cons 1 apart]
  refine Option.bind_congr fun read _ => ?_
  rw [first_inOrder_singleton, first_mark, Option.map_eq_bind]
  rfl

/-- A quote that is not closed opens nothing. -/
theorem at?_quotedText_unclosed {rest : List Char} (plain : '"' ∉ rest) :
    quotedText.at? ('"' :: rest) = none := by
  rw [at?_quotedText]
  simp only [after?, if_pos, Option.bind_some, Option.bind_eq_none_iff, Option.map_eq_none_iff]
  intro read reading
  rw [Option.eq_none_iff_forall_ne_some]
  intro behind closed
  apply plain
  rw [splits_run? _ reading, after?_eq_some_iff.1 closed]
  simp

/-- A text that is not empty ends at the next quote. -/
theorem at?_quotedText_closed {text : List Char} (plain : '"' ∉ text) (nonempty : text ≠ [])
    (behind : List Char) :
    quotedText.at? ('"' :: (text ++ '"' :: behind)) = some ([(1, text)], behind) := by
  have inside : ∀ char ∈ text, isOther '"' char = true := by
    intro char member
    rw [isOther, bne_iff_ne]
    rintro rfl
    exact plain member
  have read : run? (isOther '"') (text ++ '"' :: behind) = some (text, '"' :: behind) :=
    run?_append nonempty inside (by simp [isOther])
  simp [at?_quotedText, after?, read]

/-- The quoted texts of a line are found one after the other. -/
theorem all_quotedText (line : List Char) :
    quotedText.all 0 line =
      (ClassLine.quotedTexts none line).map fun text => [(1, text)] := by
  match line with
  | [] => rfl
  | char :: rest =>
      by_cases quote : char = '"'
      · subst quote
        by_cases closed : '"' ∈ rest
        · obtain ⟨text, behind, split, plain⟩ := List.eq_append_cons_of_mem closed
          by_cases empty : text = []
          · -- An empty pair is no text, and its second quote may open one.
            have pair : rest = '"' :: behind := by rw [split, empty, List.nil_append]
            have nothing : quotedText.at? ('"' :: rest) = none := by
              rw [pair, at?_quotedText]
              rfl
            have others : ClassLine.quotedTexts none ('"' :: rest) =
                ClassLine.quotedTexts none rest := by
              rw [pair]
              rfl
            rw [all_cons_of_none nothing, all_quotedText rest, others]
          · have found := at?_quotedText_closed plain empty behind
            have shorter : behind.length < ('"' :: rest).length := by
              rw [split]
              simp
              omega
            have whole : text ++ '"' :: behind = text ++ ['"'] ++ behind := by simp
            have texts : ClassLine.quotedTexts none ('"' :: (text ++ '"' :: behind)) =
                text :: ClassLine.quotedTexts none behind :=
              Written.Link.quotedTexts_inside plain [] behind empty
            rw [split, texts, List.map_cons, ← all_quotedText behind]
            rw [whole] at found ⊢
            exact all_cons_of_some found
        · have others : ClassLine.quotedTexts none ('"' :: rest) =
              ClassLine.quotedTexts none rest := by
            rw [ClassLine.quotedTexts_unclosed closed]
            exact ClassLine.quotedTexts_unclosed closed (some [])
          rw [all_cons_of_none (at?_quotedText_unclosed closed), all_quotedText rest, others]
      · have nothing : quotedText.at? (char :: rest) = none := by
          simp [at?_quotedText, after?, quote]
        have others : ClassLine.quotedTexts none (char :: rest) =
            ClassLine.quotedTexts none rest := by
          simp [ClassLine.quotedTexts, quote]
        rw [all_cons_of_none nothing, all_quotedText rest, others]
termination_by line.length

end Pattern

/-! ## What is made of a connection -/

/-- How a connection is related: what is made of its line, its words, its connector and
its label. It never fails. -/
structure Relating where
  relate : (line source connector target : List Char) → Option String → Except Fault Relationship
  related : (line source connector target : List Char) → Option String → Relationship
  relates : ∀ line source connector target label,
    relate line source connector target label = .ok (related line source connector target label)

/-- What cannot fail at all. -/
def Relating.total
    (related : (line source connector target : List Char) → Option String → Relationship) :
    Relating where
  relate line source connector target label := .ok (related line source connector target label)
  related := related
  relates := fun _ _ _ _ _ => rfl

/-- The rule for connections. -/
def connectionRule (between : List Pattern) (anywhere : Bool) (relating : Relating)
    (certain : ∀ number ∈ [1, 2, 3], number ∈ (connection between).certain) :
    Rule Relationship where
  pattern := connection between
  anywhere := anywhere
  needed := [1, 2, 3]
  make line captures := do
    let connector ← captures.text 2
    let source ← captures.text 1
    let target ← captures.text 3
    relating.relate line source connector target ((captures.optional 4).map String.ofList)
  certain := certain
  makes := by
    intro line captures sets
    obtain ⟨source, first⟩ := sets.exists_text 1 (by decide)
    obtain ⟨connector, second⟩ := sets.exists_text 2 (by decide)
    obtain ⟨target, third⟩ := sets.exists_text 3 (by decide)
    rw [first, second, third]
    exact ⟨_, relating.relates line source connector target _⟩

/-- The relationship that a connection states. -/
def Joined.related (joined : Joined) (relating : Relating) (line : List Char) : Relationship :=
  relating.related line joined.source joined.connector joined.target joined.label

section Rules

variable {between : List Pattern} {between? : Reader} {relating : Relating}
  {certain : ∀ number ∈ [1, 2, 3], number ∈ (connection between).certain}

theorem make_connectionRule (line : List Char) (joined : Joined) (anywhere : Bool) :
    (connectionRule between anywhere relating certain).make line joined.captures =
      .ok (joined.related relating line) := by
  have label : (joined.captures.optional 4).map String.ofList = joined.label := by
    rw [Joined.label, label?_eq, Captures.optional, Joined.captures]
    cases closingText? ':' joined.rest <;> rfl
  change relating.relate line joined.source joined.connector joined.target _ = _
  rw [label, relating.relates, Joined.related]

/-- The rule for connections at the start of a line. -/
theorem agrees_connectionRule (joins : Joins between between?)
    {reader : List Char → Option Relationship}
    (reads : ∀ line, reader line =
      (joined? between? line).map fun joined => joined.related relating line) :
    (connectionRule between false relating certain).Agrees reader := by
  intro line single
  rw [reads]
  exact Rule.read_eq (captures?_connection joins single) fun joined _ =>
    make_connectionRule line joined false

/-- The rule for connections anywhere in a line, if the reader makes the same of every
place. -/
theorem agrees_connectionRule_anywhere (joins : Joins between between?)
    {readerAt : List Char → Option Relationship}
    (reads : ∀ line text, readerAt text =
      (joined? between? text).map fun joined => joined.related relating line) :
    (connectionRule between true relating certain).Agrees fun line =>
      firstAtWord readerAt false line := by
  intro line single
  have places :
      firstAtWord readerAt false line =
        (firstAtWord (joined? between?) false line).map fun joined =>
          joined.related relating line := by
    rw [← firstAtWord_map, funext (reads line)]
  dsimp only
  rw [places]
  exact Rule.read_eq (search?_connection joins single) fun joined _ =>
    make_connectionRule line joined true

end Rules

/-! ## Messages and links -/

/-- The rule for messages: `(\w+)\s*(<?-[->]+)\s*(\w+)(?:\s*:\s*(.+))?`. -/
def messageRule : Rule Relationship :=
  connectionRule [blanks, group 2 arrow, blanks] true
    (.total fun _ source connector target label =>
      { kind := .message
        source := String.ofList source
        target := String.ofList target
        message := label
        synchronous := some (!Arrow.isDashed connector) })
    (by decide)

theorem agrees_messageRule : messageRule.Agrees SequenceLine.message? := by
  refine agrees_connectionRule_anywhere joins_arrow fun line text => ?_
  rw [SequenceLine.messageAt?, joined?]
  simp only [spaced?, Joined.related, Joined.label, Option.bind_eq_bind, Option.map_eq_bind,
    Option.bind_assoc, Function.comp_apply, Option.bind_some]
  rfl

/-- The rule for links: `(\w+)\s+(<?\.\.+>?|<?-+>?)\s+(\w+)(?:\s*:\s*(.+))?`. -/
def linkRule : Rule Relationship :=
  connectionRule [gap, group 2 link, gap] true
    (.total fun _ source connector target label =>
      { kind := if Link.isDotted connector then .inclusion else .association
        source := String.ofList source
        target := String.ofList target
        label := label })
    (by decide)

theorem agrees_linkRule : linkRule.Agrees UseCaseLine.link? := by
  refine agrees_connectionRule_anywhere joins_link fun line text => ?_
  rw [UseCaseLine.linkAt?, joined?, leadingWord?_eq]
  simp only [gapped?, Joined.related, Joined.label, Option.bind_eq_bind, Option.map_eq_bind,
    Option.bind_assoc, Function.comp_apply, Option.bind_some]
  rfl

/-! ## Relations of entity diagrams -/

/-- The end of a text from a certain place on, which must not lie behind the text. -/
def partFrom (text : List Char) (start : Nat) : Except Fault (List Char) :=
  if start ≤ text.length then .ok (text.drop start) else .error (.part start)

/-- The two characters at one end of a connector. Those at the right end begin two
characters in front of it, if there are so many. -/
def windowAt (connector : List Char) : ConnectorEnd → Except Fault (List Char)
  | .left => .ok (connector.take 2)
  | .right => partFrom connector (connector.length - 2)

/-- No window begins behind its connector. -/
theorem windowAt_eq (connector : List Char) (side : ConnectorEnd) :
    windowAt connector side = .ok (CrowsFoot.window connector side) := by
  cases side with
  | left => rfl
  | right =>
      have inside : connector.length - 2 ≤ connector.length := Nat.sub_le _ 2
      rw [windowAt, partFrom, if_pos inside]
      rfl

/-- The cardinality at one end of a connector. -/
def cardinalityAt (connector : List Char) (side : ConnectorEnd) : Except Fault Cardinality :=
  (windowAt connector side).map fun window =>
    match CrowsFoot.markers.find? fun (texts, _) => texts.any fun text => text.toList == window with
    | some (_, cardinality) => cardinality
    | none => .many

theorem cardinalityAt_eq (connector : List Char) (side : ConnectorEnd) :
    cardinalityAt connector side = .ok (CrowsFoot.cardinality connector side) := by
  rw [cardinalityAt, windowAt_eq, CrowsFoot.cardinality]
  rfl

/-- How a relation is made from a crow's foot. -/
def relations : Relating where
  relate _ source connector target label := do
    let left ← cardinalityAt connector .left
    let right ← cardinalityAt connector .right
    return {
      kind := .entityRelation
      source := String.ofList source
      target := String.ofList target
      label := label
      sourceCardinality := some left
      targetCardinality := some right }
  related _ source connector target label :=
    { kind := .entityRelation
      source := String.ofList source
      target := String.ofList target
      label := label
      sourceCardinality := some (CrowsFoot.cardinality connector .left)
      targetCardinality := some (CrowsFoot.cardinality connector .right) }
  relates := by
    intro _ source connector target label
    rw [cardinalityAt_eq, cardinalityAt_eq]
    rfl

/-- The rule for relations:
`(\w+)\s+([|o}]?[|o]?(?:--|\.\.)[|o]?[|o{]?)\s+(\w+)(?:\s*:\s*(.+))?`. -/
def relationRule : Rule Relationship :=
  connectionRule [gap, group 2 crowsFoot, gap] true relations (by decide)

theorem agrees_relationRule : relationRule.Agrees EntityLine.relation? := by
  refine agrees_connectionRule_anywhere joins_crowsFoot fun line text => ?_
  rw [EntityLine.relationAt?, joined?, leadingWord?_eq]
  simp only [gapped?, Joined.related, Joined.label, Option.bind_eq_bind, Option.map_eq_bind,
    Option.bind_assoc, Function.comp_apply, Option.bind_some]
  rfl

/-! ## Relationships of class diagrams -/

/-- The first two quoted texts of a line. -/
def firstQuoted (line : List Char) : Except Fault (List (List Char)) :=
  ((quotedText.all 0 line).take 2).mapM fun captures => captures.text 1

theorem mapM_text (texts : List (List Char)) :
    (texts.map fun text => [(1, text)]).mapM (fun captures : Captures => captures.text 1) =
      Except.ok texts := by
  induction texts with
  | nil => rfl
  | cons text texts ih =>
      rw [List.map_cons, List.mapM_cons, ih]
      rfl

theorem firstQuoted_eq (line : List Char) :
    firstQuoted line = .ok ((ClassLine.quotedTexts none line).take 2) := by
  rw [firstQuoted, all_quotedText, ← List.map_take, mapM_text]

/-- How a relationship is made from an adorned connector, and from the first two quoted
texts of the line. -/
def adornedRelationships : Relating where
  relate line source connector target label := do
    let quoted ← firstQuoted line
    return {
      kind := RelationshipKind.ofConnector connector
      source := String.ofList source
      target := String.ofList target
      label := label
      sourceCardinality := quoted[0]?.map fun text => Cardinality.ofText (String.ofList text)
      targetCardinality := quoted[1]?.map fun text => Cardinality.ofText (String.ofList text) }
  related line source connector target label :=
    { kind := RelationshipKind.ofConnector connector
      source := String.ofList source
      target := String.ofList target
      label := label
      sourceCardinality := ClassLine.quotedCardinality line 0
      targetCardinality := ClassLine.quotedCardinality line 1 }
  relates := by
    intro line source connector target label
    rw [firstQuoted_eq]
    simp [ClassLine.quotedCardinality]

/-- The rule for relationships:
`^(\w+)\s+(?:"[^"]*"\s+)?([<*o+#x}^|]*(?:-+|\.{2,})[|>*o+#x{^]*)\s+(?:"[^"]*"\s+)?(\w+)(?:\s*:\s*(.+))?`. -/
def relationshipRule : Rule Relationship :=
  connectionRule [gap, optional quotedGap, group 2 adorned, gap, optional quotedGap] false
    adornedRelationships (by decide)

theorem agrees_relationshipRule : relationshipRule.Agrees ClassLine.relationship? := by
  refine agrees_connectionRule joins_adorned fun line => ?_
  rw [ClassLine.relationship?, ClassLine.relationshipParts?, joined?, leadingWord?_eq]
  simp only [quotedGaps?, Joined.related, Joined.label, Option.bind_eq_bind, Option.map_eq_bind,
    Option.bind_assoc, Function.comp_apply, Option.bind_some]
  rfl

end DiagramGraph
