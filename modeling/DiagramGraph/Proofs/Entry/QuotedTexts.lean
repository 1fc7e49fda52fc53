import DiagramGraph.Proofs.Entry.Rules
import DiagramGraph.Proofs.Text.Lines
import Mathlib.Algebra.Ring.Parity

/-!
# Quoted texts and the cardinalities they state

The double quotes of a line enclose texts if they are paired from left to right.
The cardinalities of a relationship are looked for in another way: an empty pair of
quotes is not skipped as a pair, but its second quote may open a text. So the two
ways agree as long as quotes that stand side by side are of odd number, and where
they are of even number a text is taken that stands outside of all pairs.
-/

namespace DiagramGraph.ClassLine

open DiagramGraph.Text DiagramGraph.Written.Link

/-! ## Quotes in pairs -/

/-- Every second text, from the first one on, if there is a text behind it. -/
def everySecond : List (List Char) → List (List Char)
  | text :: _ :: rest => text :: everySecond rest
  | _ => []

/-- The texts in the quotes of a line, which are paired from left to right. -/
def tokens (line : List Char) : List (List Char) :=
  everySecond (pieces '"' line).tail

/-- The texts in the quotes of a line without those that are empty. -/
def filledTokens (line : List Char) : List (List Char) :=
  (tokens line).filter (!·.isEmpty)

theorem tokens_of_notMem {line : List Char} (plain : '"' ∉ line) : tokens line = [] := by
  rw [tokens, pieces_of_notMem plain]
  rfl

/-- What stands in front of the first quote is of no matter. -/
theorem tokens_behind {front : List Char} (unquoted : '"' ∉ front) (back : List Char) :
    tokens (front ++ '"' :: back) = tokens ('"' :: back) := by
  rw [tokens, pieces_append unquoted, tokens, ← List.nil_append ('"' :: back),
    pieces_append List.not_mem_nil]
  rfl

/-- A quote without a partner encloses nothing. -/
theorem tokens_unpaired {lead rest : List Char} (unquoted : '"' ∉ lead) (plain : '"' ∉ rest) :
    tokens (lead ++ '"' :: rest) = [] := by
  rw [tokens, pieces_append unquoted, pieces_of_notMem plain]
  rfl

/-- Behind a pair of quotes, pairing starts anew. -/
theorem tokens_append {lead text : List Char} (unquoted : '"' ∉ lead) (plain : '"' ∉ text)
    (back : List Char) : tokens (lead ++ '"' :: (text ++ '"' :: back)) = text :: tokens back := by
  rcases List.exists_cons_of_ne_nil (pieces_ne_nil '"' back) with ⟨outside, others, shape⟩
  rw [tokens, pieces_append unquoted, pieces_append plain, tokens, shape]
  rfl

theorem filledTokens_append {lead text : List Char} (unquoted : '"' ∉ lead) (plain : '"' ∉ text)
    (nonempty : text ≠ []) (back : List Char) :
    filledTokens (lead ++ '"' :: (text ++ '"' :: back)) = text :: filledTokens back := by
  rw [filledTokens, tokens_append unquoted plain, List.filter_cons_of_pos (by simpa using nonempty)]
  rfl

/-- An empty pair of quotes is skipped. -/
theorem filledTokens_replicate {lead : List Char} (unquoted : '"' ∉ lead) (quotes : Nat)
    (rest : List Char) :
    filledTokens (lead ++ (List.replicate (quotes + 2) '"' ++ rest)) =
      filledTokens (List.replicate quotes '"' ++ rest) := by
  have paired := tokens_append unquoted List.not_mem_nil (List.replicate quotes '"' ++ rest)
  rw [List.nil_append] at paired
  rw [List.replicate_succ, List.replicate_succ, List.cons_append, List.cons_append, filledTokens,
    paired, List.filter_cons_of_neg (by simp)]
  rfl

/-! ## Quotes side by side -/

/-- The first quotes of a line, which stand side by side, and the text between them
and the next quote. -/
structure QuoteRun (line lead : List Char) (quotes : Nat) (text back : List Char) : Prop where
  split : line = lead ++ (List.replicate quotes '"' ++ (text ++ '"' :: back))
  unquoted : '"' ∉ lead
  present : 0 < quotes
  nonempty : text ≠ []
  plain : '"' ∉ text

/-- Each of the first `count` texts between neighbouring quotes has quotes of odd
number in front, unless the line has fewer such texts. -/
inductive OddlyQuoted : Nat → List Char → Prop where
  | nothing (line : List Char) : OddlyQuoted 0 line
  | last {lead rest : List Char} (count quotes : Nat) (unquoted : '"' ∉ lead)
      (plain : '"' ∉ rest) : OddlyQuoted count (lead ++ (List.replicate quotes '"' ++ rest))
  | further {line lead text back : List Char} {count quotes : Nat}
      (run : QuoteRun line lead quotes text back) (odd : Odd quotes)
      (others : OddlyQuoted count back) : OddlyQuoted (count + 1) line

/-- Quotes that are followed by no further ones enclose nothing. -/
theorem filledTokens_last {lead rest : List Char} (quotes : Nat) (unquoted : '"' ∉ lead)
    (plain : '"' ∉ rest) : filledTokens (lead ++ (List.replicate quotes '"' ++ rest)) = [] := by
  induction quotes using Nat.twoStepInduction generalizing lead with
  | zero =>
      have free : '"' ∉ lead ++ rest := by simp [unquoted, plain]
      rw [List.replicate_zero, List.nil_append, filledTokens, tokens_of_notMem free]
      rfl
  | one =>
      have unpaired := tokens_unpaired unquoted plain
      rw [List.replicate_one, List.singleton_append, filledTokens, unpaired]
      rfl
  | more quotes ih _ =>
      rw [filledTokens_replicate unquoted]
      exact ih List.not_mem_nil

namespace QuoteRun

variable {line lead text back : List Char} {quotes : Nat}

/-- Behind quotes of odd number stands the first text that is enclosed: all pairs in
front of it are empty. -/
theorem filledTokens_eq (run : QuoteRun line lead quotes text back) (odd : Odd quotes) :
    filledTokens line = text :: filledTokens back := by
  rcases run with ⟨rfl, unquoted, -, nonempty, plain⟩
  rcases odd with ⟨pairs, rfl⟩
  -- The quotes are taken off in pairs from the left, until the one that opens the text is left.
  induction pairs generalizing lead with
  | zero => exact filledTokens_append unquoted plain nonempty back
  | succ pairs ih =>
      have two : 2 * (pairs + 1) + 1 = 2 * pairs + 1 + 2 := rfl
      rw [two, filledTokens_replicate unquoted]
      exact ih List.not_mem_nil

/-- Behind quotes of even number, all of which make empty pairs, the text is not
enclosed. -/
theorem filledTokens_eq_behind (run : QuoteRun line lead quotes text back) (even : Even quotes) :
    filledTokens line = filledTokens ('"' :: back) := by
  rcases run with ⟨rfl, unquoted, -, -, plain⟩
  rcases even.two_dvd with ⟨pairs, rfl⟩
  induction pairs generalizing lead with
  | zero =>
      have front : '"' ∉ lead ++ text := by simp [unquoted, plain]
      have behind := tokens_behind front back
      rw [List.append_assoc] at behind
      rw [Nat.mul_zero, List.replicate_zero, List.nil_append, filledTokens, behind, filledTokens]
  | succ pairs ih =>
      rw [Nat.mul_succ, filledTokens_replicate unquoted]
      exact ih List.not_mem_nil (even_two_mul pairs)

end QuoteRun

/-! ## What is found in a line -/

/-- Quotes side by side open a text, however many they are. -/
theorem quotedTexts_quotes (quotes : Nat) (rest : List Char) :
    quotedTexts none (List.replicate (quotes + 1) '"' ++ rest) = quotedTexts (some []) rest := by
  induction quotes with
  | zero => rfl
  | succ quotes ih => exact ih

/-- A text that is opened and not closed is not found. -/
theorem quotedTexts_unclosed {rest : List Char} (plain : '"' ∉ rest)
    (inside : Option (List Char)) : quotedTexts inside rest = [] := by
  induction rest generalizing inside with
  | nil => rfl
  | cons char rest ih =>
      simp only [List.mem_cons, not_or] at plain
      have other : ¬ char = '"' := Ne.symm plain.1
      simp [quotedTexts, other, ih plain.2]

theorem quotedTexts_last {lead rest : List Char} (quotes : Nat) (unquoted : '"' ∉ lead)
    (plain : '"' ∉ rest) :
    quotedTexts none (lead ++ (List.replicate quotes '"' ++ rest)) = [] := by
  rw [quotedTexts_append unquoted]
  cases quotes with
  | zero => exact quotedTexts_unclosed plain none
  | succ quotes => rw [quotedTexts_quotes, quotedTexts_unclosed plain]

/-- The text behind the first quotes is found, whether it is enclosed or not. -/
theorem QuoteRun.quotedTexts_eq {line lead text back : List Char} {quotes : Nat}
    (run : QuoteRun line lead quotes text back) :
    quotedTexts none line = text :: quotedTexts none back := by
  rcases run with ⟨rfl, unquoted, present, nonempty, plain⟩
  rcases Nat.exists_eq_add_one.2 present with ⟨others, rfl⟩
  rw [quotedTexts_append unquoted, quotedTexts_quotes]
  exact quotedTexts_inside plain [] back nonempty

/-- As long as quotes that stand side by side are of odd number, the texts that are
found are the enclosed ones. -/
theorem OddlyQuoted.take_quotedTexts {count : Nat} {line : List Char}
    (odd : OddlyQuoted count line) :
    (quotedTexts none line).take count = (filledTokens line).take count := by
  induction odd with
  | nothing line => rw [List.take_zero, List.take_zero]
  | last count quotes unquoted plain =>
      rw [quotedTexts_last quotes unquoted plain, filledTokens_last quotes unquoted plain]
  | further run odd others ih =>
      rw [run.quotedTexts_eq, run.filledTokens_eq odd, List.take_succ_cons, List.take_succ_cons, ih]

/-! ## The cardinalities of a relationship -/

/-- The cardinality that the enclosed text at a position states. -/
def tokenCardinality (line : List Char) (position : Nat) : Option Cardinality :=
  (filledTokens line)[position]?.map fun token => Cardinality.ofText (String.ofList token)

theorem OddlyQuoted.quotedCardinality_eq {position : Nat} {line : List Char}
    (odd : OddlyQuoted (position + 1) line) :
    quotedCardinality line position = tokenCardinality line position := by
  have found : (quotedTexts none line)[position]? = (filledTokens line)[position]? := by
    rw [← List.getElem?_take_of_lt (Nat.lt_succ_self position), odd.take_quotedTexts,
      List.getElem?_take_of_lt (Nat.lt_succ_self position)]
  rw [quotedCardinality, found, tokenCardinality]

/-- The source cardinality of an accepted line is the first text in its quotes that
is not empty, and the target cardinality the second one, as long as quotes that stand
side by side in front of a text are of odd number. In any case the source cardinality
is the text behind the first quotes, and the target cardinality is found in the same
way behind that. If the first quotes are of even number, the text is not enclosed: the
enclosed ones all come behind it. -/
theorem cardinalities_of_entryOf? {line : List Char} {stated : Relationship}
    (accepted : entryOf? line = some (.relationship stated)) :
    (OddlyQuoted 1 line → stated.sourceCardinality = tokenCardinality line 0) ∧
      (OddlyQuoted 2 line → stated.targetCardinality = tokenCardinality line 1) ∧
      ∀ lead quotes text back, QuoteRun line lead quotes text back →
        stated.sourceCardinality = some (Cardinality.ofText (String.ofList text)) ∧
          stated.targetCardinality = quotedCardinality back 0 ∧
          (Odd quotes → filledTokens line = text :: filledTokens back) ∧
          (Even quotes → filledTokens line = filledTokens ('"' :: back)) := by
  have reads : DiagramKind.classes.rules.Reads line (.relationship stated) :=
    DiagramKind.reads_of_entryOf? accepted
  have states : relationship? line = some stated := by
    cases reads with
    | relationship _ states => exact states
  rcases Option.map_eq_some_iff.1 states with ⟨parts, -, rfl⟩
  refine ⟨fun odd => odd.quotedCardinality_eq, fun odd => odd.quotedCardinality_eq, ?_⟩
  intro lead quotes text back run
  refine ⟨?_, ?_, run.filledTokens_eq, run.filledTokens_eq_behind⟩
  · simp only [quotedCardinality, run.quotedTexts_eq]
    rfl
  · simp only [quotedCardinality, run.quotedTexts_eq]
    rfl

/-- A line with a cardinality at each end, and an empty pair of quotes in its
label. -/
def orderLine : List Char :=
  "Order \"1\" *-- \"0..*\" Item : of \"\"".toList

/-- The relationship that the line states. -/
def orderRelationship : Relationship where
  kind := .composition
  source := "Order"
  target := "Item"
  label := some "of \"\""
  sourceCardinality := some .one
  targetCardinality := some .zeroOrMany

theorem cardinalities_of_orderLine :
    entryOf? orderLine = some (.relationship orderRelationship) ∧
      OddlyQuoted 1 orderLine ∧ OddlyQuoted 2 orderLine ∧
      some .one = tokenCardinality orderLine 0 ∧
      some .zeroOrMany = tokenCardinality orderLine 1 := by
  have accepted : entryOf? orderLine = some (.relationship orderRelationship) := by decide +kernel
  have source : QuoteRun orderLine "Order ".toList 1 ['1']
      " *-- \"0..*\" Item : of \"\"".toList :=
    ⟨by decide +kernel, by decide +kernel, by decide, by decide, by decide⟩
  have target : QuoteRun " *-- \"0..*\" Item : of \"\"".toList " *-- ".toList 1
      "0..*".toList " Item : of \"\"".toList :=
    ⟨by decide +kernel, by decide +kernel, by decide, by decide +kernel, by decide +kernel⟩
  have first : OddlyQuoted 1 orderLine := .further source odd_one (.nothing _)
  have both : OddlyQuoted 2 orderLine :=
    .further source odd_one (.further target odd_one (.nothing _))
  rcases cardinalities_of_entryOf? accepted with ⟨sourceStated, targetStated, -⟩
  exact ⟨accepted, first, both, sourceStated first, targetStated both⟩

/-- So an empty pair of quotes at the source makes a cardinality of the connector,
although the line states one at the target. -/
theorem exists_cardinality_not_enclosed :
    ¬ ∀ line stated, entryOf? line = some (.relationship stated) →
      stated.sourceCardinality = tokenCardinality line 0 := by
  intro enclosed
  have accepted : entryOf? "A \"\" -- \"1\" B".toList =
      some (.relationship
        { kind := .association
          source := "A"
          target := "B"
          sourceCardinality := some (.custom " -- ") }) := by decide +kernel
  have stated : tokenCardinality "A \"\" -- \"1\" B".toList 0 = some .one := by decide +kernel
  have same := (enclosed _ _ accepted).trans stated
  simp at same

end DiagramGraph.ClassLine
