import DiagramGraph.Text.Scan

/-!
# Runs of characters

A run of characters of one class ends where the text behind it begins, if that
text does not begin with a further character of the class.
-/

namespace DiagramGraph.Text

/-- A run of a class is all that is taken from a text that continues with
something else. -/
theorem takeWhile_run_append {belongs : Char → Bool} {run rest : List Char}
    (inside : ∀ char ∈ run, belongs char = true)
    (stop : ∀ char ∈ rest.head?, belongs char = false) :
    (run ++ rest).takeWhile belongs = run := by
  rw [List.takeWhile_append_of_pos inside]
  cases rest with
  | nil => simp
  | cons char rest => simp [stop char rfl]

/-- A run of a class is all that is dropped from a text that continues with
something else. -/
theorem dropWhile_run_append {belongs : Char → Bool} {run rest : List Char}
    (inside : ∀ char ∈ run, belongs char = true)
    (stop : ∀ char ∈ rest.head?, belongs char = false) :
    (run ++ rest).dropWhile belongs = rest := by
  rw [List.dropWhile_append_of_pos inside]
  cases rest with
  | nil => rfl
  | cons char rest => simp [stop char rfl]

/-- What stands in front of a text ends at the latest where a character of another
class follows. -/
theorem takeWhile_append_stop {belongs : Char → Bool} {stop : Char}
    (outside : belongs stop = false) (front back : List Char) :
    (front ++ stop :: back).takeWhile belongs = front.takeWhile belongs := by
  induction front with
  | nil => simp [outside]
  | cons char front ih =>
      cases inside : belongs char with
      | true => simp [inside, ih]
      | false => simp [inside]

/-- A run is read as a whole. -/
theorem run?_append {belongs : Char → Bool} {run rest : List Char} (nonempty : run ≠ [])
    (inside : ∀ char ∈ run, belongs char = true)
    (stop : ∀ char ∈ rest.head?, belongs char = false) :
    run? belongs (run ++ rest) = some (run, rest) := by
  obtain ⟨first, more, rfl⟩ := List.exists_cons_of_ne_nil nonempty
  unfold run?
  rw [takeWhile_run_append inside stop, dropWhile_run_append inside stop]

/-- Nothing is read as a run where no character of the class stands. -/
theorem run?_eq_none {belongs : Char → Bool} {text : List Char}
    (stop : ∀ char ∈ text.head?, belongs char = false) : run? belongs text = none := by
  cases text with
  | nil => rfl
  | cons char rest => simp [run?, stop char rfl]

/-- A text has characters of a class in front if its first one is of the class. -/
theorem takeWhile_ne_nil_iff {belongs : Char → Bool} {text : List Char} :
    text.takeWhile belongs ≠ [] ↔ ∃ first ∈ text.head?, belongs first = true := by
  cases text with
  | nil => simp
  | cons char text =>
      cases inside : belongs char with
      | true => simp [inside]
      | false => simp [inside]

/-- A run is what stands in front, and it is not empty. -/
theorem run?_eq_some_iff {belongs : Char → Bool} {text run rest : List Char} :
    run? belongs text = some (run, rest) ↔
      run ≠ [] ∧ text.takeWhile belongs = run ∧ text.dropWhile belongs = rest := by
  unfold run?
  split
  · next empty =>
      rw [empty]
      simp only [reduceCtorEq, ne_eq, false_iff, not_and]
      intro nonempty same
      exact absurd same.symm nonempty
  · next first more taken =>
      rw [taken]
      simp only [Option.some.injEq, Prod.mk.injEq]
      constructor
      · rintro ⟨rfl, same⟩
        exact ⟨List.cons_ne_nil first more, rfl, same⟩
      · rintro ⟨-, same⟩
        exact same

/-- What is left behind the characters of a class does not begin with one. -/
theorem head_dropWhile (belongs : Char → Bool) (text : List Char) :
    ∀ char ∈ (text.dropWhile belongs).head?, belongs char = false := by
  intro char starts
  have stopped := List.head?_dropWhile_not belongs text
  rw [Option.mem_def] at starts
  rwa [starts] at stopped

/-- What stands behind a run does not continue it. -/
theorem head_behind_run? {belongs : Char → Bool} {text run rest : List Char}
    (read : run? belongs text = some (run, rest)) : ∀ char ∈ rest.head?, belongs char = false := by
  rcases run?_eq_some_iff.1 read with ⟨-, -, rfl⟩
  exact head_dropWhile belongs text

/-- A run begins where the text does. -/
theorem head?_of_run? {belongs : Char → Bool} {text run rest : List Char}
    (read : run? belongs text = some (run, rest)) : run.head? = text.head? := by
  cases text with
  | nil => contradiction
  | cons char text =>
      cases inside : belongs char with
      | false => simp [run?, inside] at read
      | true =>
          simp only [run?, List.takeWhile_cons_of_pos inside, Option.some.injEq,
            Prod.mk.injEq] at read
          rw [← read.1]
          rfl

/-- The text behind an opening is what was put there. -/
theorem after?_append (opening rest : List Char) :
    after? opening (opening ++ rest) = some rest := by
  induction opening with
  | nil => rfl
  | cons char opening ih => simpa [after?] using ih

/-- A text stands behind an opening only if it was put there. -/
theorem after?_eq_some_iff {opening text rest : List Char} :
    after? opening text = some rest ↔ text = opening ++ rest := by
  constructor
  · intro found
    induction opening generalizing text with
    | nil => exact Option.some.inj found
    | cons expected opening ih =>
        cases text with
        | nil => contradiction
        | cons char text =>
            rw [after?] at found
            split at found
            · next same => rw [same, ih found, List.cons_append]
            · contradiction
  · rintro rfl
    exact after?_append opening rest

/-- What does not begin with a quote is not in quotes. -/
theorem quoted?_eq_none {text : List Char} (bare : ∀ first ∈ text.head?, first ≠ '"') :
    quoted? text = none := by
  cases text with
  | nil => rfl
  | cons first rest =>
      rw [quoted?]
      rintro more ⟨rfl⟩
      exact bare '"' rfl rfl

/-! ## Anywhere in a line -/

/-- Whether the place behind a text is outside of words. `inWord` tells whether the
place in front of it is in a word. -/
def isOutside (inWord : Bool) : List Char → Bool
  | [] => !inWord
  | char :: rest => isOutside (isWord char) rest

theorem isOutside_iff {text : List Char} :
    isOutside false text = true ↔ ∀ last ∈ text.getLast?, isWord last = false := by
  have general (inWord : Bool) :
      isOutside inWord text = true ↔ (text.getLast?.map isWord).getD inWord = false := by
    induction text generalizing inWord with
    | nil => simp [isOutside]
    | cons char text ih =>
        rw [isOutside, ih, List.getLast?_cons]
        cases text.getLast? <;> simp
  rw [general]
  cases text.getLast? <;> simp

section Anywhere

variable {α : Type} {reader : List Char → Option α} {char : Char} {rest : List Char}

/-- What can be read at the start is found there. -/
theorem firstAtWord_of_read {found : α} (read : reader (char :: rest) = some found) :
    firstAtWord reader false (char :: rest) = some found := by
  simp [firstAtWord, read]

/-- A place from which nothing can be read is passed over. -/
theorem firstAtWord_of_refused (refused : reader (char :: rest) = none) (inWord : Bool) :
    firstAtWord reader inWord (char :: rest) = firstAtWord reader (isWord char) rest := by
  simp [firstAtWord, refused]

/-- What a reader finds it finds at a place outside of words, and at no such place
further in front could it read anything. -/
theorem exists_place_of_firstAtWord {text : List Char} {inWord : Bool} {found : α}
    (reading : firstAtWord reader inWord text = some found) :
    ∃ front back, text = front ++ back ∧ back ≠ [] ∧ isOutside inWord front = true ∧
      reader back = some found ∧
      ∀ earlier later, text = earlier ++ later → later ≠ [] → isOutside inWord earlier = true →
        (reader later).isSome → front.length ≤ earlier.length := by
  induction text generalizing inWord with
  | nil => contradiction
  | cons char rest ih =>
      rw [firstAtWord] at reading
      split at reading
      · next here =>
          cases inWord with
          | true => contradiction
          | false =>
              cases reading
              exact ⟨[], char :: rest, rfl, List.cons_ne_nil char rest, rfl, here,
                fun _ _ _ _ _ _ => Nat.zero_le _⟩
      · next refused =>
          rcases ih reading with ⟨front, back, rfl, nonempty, outside, read, least⟩
          refine ⟨char :: front, back, rfl, nonempty, outside, read, ?_⟩
          intro earlier later split behind outsideEarlier readable
          -- The start of the text is ruled out: from there the reader was just refused.
          cases earlier with
          | nil =>
              rw [List.nil_append] at split
              have free : inWord = false := by simpa [isOutside] using outsideEarlier
              rw [free, if_neg Bool.false_ne_true] at refused
              rw [← split, refused] at readable
              contradiction
          | cons first earlier =>
              rcases List.cons.inj split with ⟨rfl, same⟩
              exact Nat.succ_le_succ (least earlier later same behind outsideEarlier readable)

/-- Something is found if it can be read anywhere outside of words. -/
theorem isSome_firstAtWord {front back : List Char} {inWord : Bool} (nonempty : back ≠ [])
    (outside : isOutside inWord front = true) (readable : (reader back).isSome) :
    (firstAtWord reader inWord (front ++ back)).isSome := by
  induction front generalizing inWord with
  | nil =>
      rcases List.exists_cons_of_ne_nil nonempty with ⟨first, more, rfl⟩
      rcases Option.isSome_iff_exists.1 readable with ⟨found, read⟩
      have free : inWord = false := by simpa [isOutside] using outside
      rw [List.nil_append, free, firstAtWord_of_read read]
      rfl
  | cons char front ih =>
      rw [List.cons_append, firstAtWord]
      split
      · rfl
      · exact ih outside

end Anywhere

end DiagramGraph.Text
