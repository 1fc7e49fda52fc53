import DiagramGraph.Proofs.Text.Run

/-!
# Patterns of lines

A pattern describes what a text begins with, and numbers some parts of it as groups.
A text may be described in several ways. They are tried in a fixed order, in which
runs are as long as they can be and what is optional is there, and the first way
counts.

A reader takes what it can get and never comes back to it. It does the same as a
pattern if nothing is gained by taking less, because what follows cannot begin with
what was given back.
-/

namespace DiagramGraph

open DiagramGraph.Text

/-- A pattern: single characters and runs of a class, the longest run or the shortest
one first; patterns one behind the other, one of two patterns, a pattern or nothing,
a group, nothing at all, and the end of the text. -/
inductive Pattern where
  | one (belongs : Char → Bool)
  | many (belongs : Char → Bool)
  | fewest (belongs : Char → Bool)
  | sequence (front back : Pattern)
  | either (first second : Pattern)
  | optional (inner : Pattern)
  | group (number : Nat) (inner : Pattern)
  | nothing
  | finish

/-- The texts of groups by their numbers. -/
abbrev Captures := List (Nat × List Char)

namespace Pattern

/-! ## Ways to describe a text -/

/-- What can be left of a text behind a run of a class, the longest run first. -/
def leftovers (belongs : Char → Bool) : List Char → List (List Char)
  | [] => [[]]
  | char :: rest =>
      if belongs char then leftovers belongs rest ++ [char :: rest] else [char :: rest]

/-- The part of a text that stands in front of the rest of it. -/
def taken (text rest : List Char) : List Char :=
  text.take (text.length - rest.length)

/-- All ways in which a pattern describes the start of a text, in the order in which
they are tried: the groups, and the text behind what is described. -/
@[simp]
def ways : Pattern → List Char → List (Captures × List Char)
  | one _, [] => []
  | one belongs, char :: rest => if belongs char then [([], rest)] else []
  | many belongs, text => (leftovers belongs text).map fun rest => ([], rest)
  | fewest belongs, text => (leftovers belongs text).reverse.map fun rest => ([], rest)
  | sequence front back, text =>
      (ways front text).flatMap fun way =>
        (ways back way.2).map fun further => (way.1 ++ further.1, further.2)
  | either first second, text => ways first text ++ ways second text
  | optional inner, text => ways inner text ++ [([], text)]
  | group number inner, text =>
      (ways inner text).map fun way => ((number, taken text way.2) :: way.1, way.2)
  | nothing, text => [([], text)]
  | finish, [] => [([], [])]
  | finish, _ :: _ => []

/-- Patterns one behind the other. -/
def inOrder : List Pattern → Pattern
  | [] => nothing
  | first :: rest => sequence first (inOrder rest)

/-- The groups at the start of a text, and the text behind what is described. -/
def at? (pattern : Pattern) (text : List Char) : Option (Captures × List Char) :=
  (pattern.ways text).head?

/-- The groups at the start of a text. -/
def captures? (pattern : Pattern) (text : List Char) : Option Captures :=
  (pattern.at? text).map Prod.fst

/-- The groups at the first place of a text from which it is described. -/
def search? (pattern : Pattern) : List Char → Option Captures
  | [] => pattern.captures? []
  | char :: rest =>
      match pattern.captures? (char :: rest) with
      | some captures => some captures
      | none => search? pattern rest

/-- The groups at all places that a pattern describes one after the other, where
`skipped` characters belong to the last of them. The pattern describes no empty
text. -/
def all (pattern : Pattern) (skipped : Nat) : List Char → List Captures
  | [] => []
  | char :: rest =>
      match skipped with
      | skipped + 1 => all pattern skipped rest
      | 0 =>
          match pattern.at? (char :: rest) with
          | some (captures, behind) => captures :: all pattern (rest.length - behind.length) rest
          | none => all pattern 0 rest

/-! ## One place behind the other -/

/-- What belongs to the last place is skipped. -/
theorem all_append (pattern : Pattern) (front back : List Char) :
    pattern.all front.length (front ++ back) = pattern.all 0 back := by
  induction front with
  | nil => rfl
  | cons char front ih => exact ih

theorem all_cons_of_none {pattern : Pattern} {char : Char} {rest : List Char}
    (nothing : pattern.at? (char :: rest) = none) :
    pattern.all 0 (char :: rest) = pattern.all 0 rest := by
  rw [Pattern.all, nothing]

theorem all_cons_of_some {pattern : Pattern} {captures : Captures} {char : Char}
    {front behind : List Char}
    (found : pattern.at? (char :: (front ++ behind)) = some (captures, behind)) :
    pattern.all 0 (char :: (front ++ behind)) = captures :: pattern.all 0 behind := by
  have skipped : (front ++ behind).length - behind.length = front.length := by simp
  rw [Pattern.all, found]
  dsimp only
  rw [skipped, all_append]

/-! ## Groups that take part -/

/-- The groups that take part in every way to describe a text. -/
def certain : Pattern → List Nat
  | one _ | many _ | fewest _ | optional _ | nothing | finish => []
  | sequence front back => front.certain ++ back.certain
  | either first second => first.certain.filter second.certain.contains
  | group number inner => number :: inner.certain

/-- A group that is certain is set, whatever way is taken. -/
theorem isSome_lookup_of_mem_certain {pattern : Pattern} {number : Nat} {text : List Char}
    (certain : number ∈ pattern.certain) :
    ∀ way ∈ pattern.ways text, (way.1.lookup number).isSome := by
  induction pattern generalizing text with
  | one | many | fewest | optional | nothing | finish => contradiction
  | sequence front back ihFront ihBack =>
      intro way member
      obtain ⟨start, starting, member⟩ := List.mem_flatMap.1 member
      obtain ⟨further, behind, rfl⟩ := List.mem_map.1 member
      rw [List.lookup_append, Option.isSome_or, Bool.or_eq_true]
      rcases List.mem_append.1 certain with inFront | inBack
      · exact .inl (ihFront inFront start starting)
      · exact .inr (ihBack inBack further behind)
  | either first second ihFirst ihSecond =>
      intro way member
      obtain ⟨inFirst, inSecond⟩ := List.mem_filter.1 certain
      rcases List.mem_append.1 member with here | there
      · exact ihFirst inFirst way here
      · exact ihSecond (List.contains_iff_mem.1 inSecond) way there
  | group other inner ih =>
      intro way member
      obtain ⟨inside, described, rfl⟩ := List.mem_map.1 member
      rw [List.lookup_cons]
      split
      · rfl
      · next apart =>
          have further : number ∈ inner.certain := by
            rcases List.mem_cons.1 certain with rfl | further
            · simp at apart
            · exact further
          exact ih further inside described

/-! ## The first way that goes on -/

/-- What is made of the first way to describe a text from which one can go on. -/
def first {α : Type} (pattern : Pattern) (next : Captures → List Char → Option α)
    (text : List Char) : Option α :=
  (pattern.ways text).findSome? fun way => next way.1 way.2

section First

variable {α : Type} {next : Captures → List Char → Option α} {text : List Char}

theorem at?_eq_first (pattern : Pattern) (text : List Char) :
    pattern.at? text = pattern.first (fun captures rest => some (captures, rest)) text := by
  rw [at?, first]
  cases pattern.ways text <;> rfl

theorem captures?_eq_first (pattern : Pattern) (text : List Char) :
    pattern.captures? text = pattern.first (fun captures _ => some captures) text := by
  rw [captures?, at?, first]
  cases pattern.ways text <;> rfl

theorem first_one_cons (belongs : Char → Bool) (char : Char) (rest : List Char) :
    (one belongs).first next (char :: rest) = if belongs char then next [] rest else none := by
  rw [first, ways]
  split <;> simp

theorem first_sequence (front back : Pattern) :
    (sequence front back).first next text =
      front.first (fun captures => back.first fun more => next (captures ++ more)) text := by
  rw [first, first, ways]
  induction front.ways text with
  | nil => rfl
  | cons way ways ih =>
      rw [List.flatMap_cons, List.findSome?_append, ih, List.findSome?_map, List.findSome?_cons]
      change (back.first (fun more => next (way.1 ++ more)) way.2).or _ = _
      cases back.first (fun more => next (way.1 ++ more)) way.2 <;> rfl

theorem first_inOrder_cons (pattern : Pattern) (rest : List Pattern) :
    (inOrder (pattern :: rest)).first next text =
      pattern.first (fun captures => (inOrder rest).first fun more => next (captures ++ more))
        text :=
  first_sequence pattern (inOrder rest)

theorem first_nothing : nothing.first next text = next [] text := by
  simp [first, ways]

theorem first_inOrder_nil : (inOrder []).first next text = next [] text :=
  first_nothing

/-- Nothing follows behind the last of several patterns. -/
theorem first_inOrder_singleton (pattern : Pattern) :
    (inOrder [pattern]).first next text = pattern.first next text := by
  have last (captures : Captures) :
      ((inOrder []).first fun more => next (captures ++ more)) = next captures := by
    funext rest
    rw [first_inOrder_nil, List.append_nil]
  rw [first_inOrder_cons]
  simp only [last]

theorem first_either (one other : Pattern) :
    (either one other).first next text = (one.first next text).or (other.first next text) := by
  simp [first, ways, List.findSome?_append]

theorem first_optional (inner : Pattern) :
    (optional inner).first next text = (inner.first next text).or (next [] text) := by
  simp [first, ways, List.findSome?_append]

theorem first_group (number : Nat) (inner : Pattern) :
    (group number inner).first next text =
      inner.first (fun captures rest => next ((number, taken text rest) :: captures) rest)
        text := by
  simp only [first, ways, List.findSome?_map, Function.comp_def]

theorem first_finish_nil : finish.first next [] = next [] [] := by
  simp [first, ways]

theorem first_finish_cons (char : Char) (rest : List Char) :
    finish.first next (char :: rest) = none := by
  simp [first, ways]

/-- Nothing follows if there is no way to begin. -/
theorem first_eq_none {pattern : Pattern} (none : pattern.ways text = []) :
    pattern.first next text = Option.none := by
  rw [first, none, List.findSome?_nil]

/-- One can go on from every text. -/
def Accepts (next : Captures → List Char → Option α) : Prop :=
  ∀ captures rest, (next captures rest).isSome

/-- One cannot go on from a text that begins with a character of a class. -/
def Refuses (follow : Char → Bool) (next : Captures → List Char → Option α) : Prop :=
  ∀ captures char rest, follow char = true → next captures (char :: rest) = none

/-- If one can always go on, then the first way counts. -/
theorem first_of_accepts (accepts : Accepts next) (pattern : Pattern) :
    pattern.first next text = (pattern.at? text).bind fun found => next found.1 found.2 := by
  rw [first, at?]
  cases pattern.ways text with
  | nil => rfl
  | cons way ways =>
      obtain ⟨made, goes⟩ := Option.isSome_iff_exists.1 (accepts way.1 way.2)
      simp [goes]

/-- Whether anything is made does not depend on what is made, if one can always go on. -/
theorem isSome_first_of_accepts (accepts : Accepts next) (pattern : Pattern) :
    (pattern.first next text).isSome = (pattern.at? text).isSome := by
  rw [first_of_accepts accepts]
  cases pattern.at? text with
  | none => rfl
  | some found => exact accepts found.1 found.2

theorem first_optional_of_accepts (accepts : Accepts next) (inner : Pattern) :
    (optional inner).first next text =
      match inner.at? text with
      | some found => next found.1 found.2
      | none => next [] text := by
  rw [first_optional, first_of_accepts accepts]
  cases inner.at? text with
  | none => rfl
  | some found =>
      obtain ⟨made, goes⟩ := Option.isSome_iff_exists.1 (accepts found.1 found.2)
      simp [goes]

/-- A pattern describes the start of every text in some way. -/
def Total (pattern : Pattern) : Prop :=
  ∀ text, pattern.ways text ≠ []

theorem total_optional (inner : Pattern) : (optional inner).Total := by
  intro text
  simp [ways]

theorem total_nil : (inOrder []).Total := by
  intro text
  simp [inOrder, ways]

theorem total_cons {pattern : Pattern} {patterns : List Pattern} (total : pattern.Total)
    (others : (inOrder patterns).Total) : (inOrder (pattern :: patterns)).Total := by
  intro text
  obtain ⟨way, ways, split⟩ := List.exists_cons_of_ne_nil (total text)
  simp [inOrder, Pattern.ways, split, others way.2]

/-- One can always go on with something that begins with a total pattern. -/
theorem accepts_first {pattern : Pattern} {next : Captures → Captures → List Char → Option α}
    (total : pattern.Total) (accepts : ∀ captures, Accepts (next captures)) :
    Accepts fun captures => pattern.first (next captures) := by
  intro captures rest
  obtain ⟨way, ways, split⟩ := List.exists_cons_of_ne_nil (total rest)
  change (pattern.first (next captures) rest).isSome
  rw [first_of_accepts (accepts captures), at?, split]
  exact accepts captures way.1 way.2

/-- What is optional is there if it can be, if one can always go on behind it. -/
theorem first_optional_cons {patterns : List Pattern} (total : (inOrder patterns).Total)
    (accepts : Accepts next) (inner : Pattern) :
    (inOrder (optional inner :: patterns)).first next text =
      match inner.at? text with
      | some found => (inOrder patterns).first (fun more => next (found.1 ++ more)) found.2
      | none => (inOrder patterns).first next text := by
  have goes :
      Accepts fun captures => (inOrder patterns).first fun more => next (captures ++ more) :=
    accepts_first total fun captures more rest => accepts (captures ++ more) rest
  rw [first_inOrder_cons, first_optional_of_accepts goes]
  rfl

/-- What is optional at the end is there if it can be. -/
theorem first_optional_last (made : Captures → α) (inner : Pattern) :
    (inOrder [optional inner]).first (fun captures _ => some (made captures)) text =
      some (made ((inner.captures? text).getD [])) := by
  rw [first_optional_cons total_nil fun _ _ => rfl, captures?]
  cases inner.at? text with
  | none => exact first_inOrder_nil
  | some found =>
      refine first_inOrder_nil.trans ?_
      rw [List.append_nil]
      rfl

/-! ## Runs -/

theorem first_many_nil (belongs : Char → Bool) : (many belongs).first next [] = next [] [] := by
  simp [first, ways, leftovers]

theorem first_many_cons (belongs : Char → Bool) (char : Char) (rest : List Char) :
    (many belongs).first next (char :: rest) =
      if belongs char then ((many belongs).first next rest <|> next [] (char :: rest))
      else next [] (char :: rest) := by
  rw [first, ways, leftovers]
  split <;> simp [first, ways, List.findSome?_append]

/-- The longest run counts if one can go on behind it. -/
theorem first_many_of_isSome {belongs : Char → Bool}
    (goes : (next [] (text.dropWhile belongs)).isSome) :
    (many belongs).first next text = next [] (text.dropWhile belongs) := by
  induction text with
  | nil => rw [first_many_nil, List.dropWhile_nil]
  | cons char rest ih =>
      rw [first_many_cons]
      cases inside : belongs char with
      | false => simp [inside]
      | true =>
          rw [List.dropWhile_cons_of_pos inside] at goes ⊢
          obtain ⟨made, goes'⟩ := Option.isSome_iff_exists.1 goes
          simp [ih goes, goes']

/-- The longest run counts if one cannot go on inside of it. -/
theorem first_many_of_refuses {belongs : Char → Bool} (refuses : Refuses belongs next) :
    (many belongs).first next text = next [] (text.dropWhile belongs) := by
  induction text with
  | nil => rw [first_many_nil, List.dropWhile_nil]
  | cons char rest ih =>
      rw [first_many_cons]
      cases inside : belongs char with
      | false => simp [inside]
      | true => simp [ih, refuses [] char rest inside, inside]

end First

/-! ## What a pattern begins with -/

/-- Whether a pattern can describe the empty text. -/
def nullable : Pattern → Bool
  | one _ => false
  | many _ | fewest _ | optional _ | nothing | finish => true
  | sequence front back => front.nullable && back.nullable
  | either first second => first.nullable || second.nullable
  | group _ inner => inner.nullable

/-- Whether what a pattern describes can begin with a character. -/
def starts (char : Char) : Pattern → Bool
  | one belongs | many belongs | fewest belongs => belongs char
  | sequence front back => front.starts char || (front.nullable && back.starts char)
  | either first second => first.starts char || second.starts char
  | optional inner | group _ inner => inner.starts char
  | nothing | finish => false

/-- With a character with which it cannot begin, a pattern describes the empty text at
most. -/
theorem nullable_of_not_starts {pattern : Pattern} {char : Char} {rest : List Char}
    (never : pattern.starts char = false) :
    ∀ way ∈ pattern.ways (char :: rest), pattern.nullable = true ∧ way.2 = char :: rest := by
  induction pattern with
  | one belongs =>
      intro way member
      simp only [starts] at never
      simp [ways, never] at member
  | many belongs | fewest belongs =>
      intro way member
      simp only [starts] at never
      simp only [ways, leftovers, never, Bool.false_eq_true, if_false, List.reverse_singleton,
        List.map_singleton, List.mem_singleton] at member
      exact ⟨rfl, by rw [member]⟩
  | sequence front back ihFront ihBack =>
      intro way member
      simp only [starts, Bool.or_eq_false_iff, Bool.and_eq_false_imp] at never
      obtain ⟨start, starting, member⟩ := List.mem_flatMap.1 member
      obtain ⟨further, behind, rfl⟩ := List.mem_map.1 member
      obtain ⟨empty, same⟩ := ihFront never.1 start starting
      rw [same] at behind
      obtain ⟨emptyBack, sameBack⟩ := ihBack (never.2 empty) further behind
      exact ⟨Bool.and_eq_true_iff.2 ⟨empty, emptyBack⟩, sameBack⟩
  | either first second ihFirst ihSecond =>
      intro way member
      simp only [starts, Bool.or_eq_false_iff] at never
      rcases List.mem_append.1 member with here | there
      · obtain ⟨empty, same⟩ := ihFirst never.1 way here
        exact ⟨Bool.or_eq_true_iff.2 (.inl empty), same⟩
      · obtain ⟨empty, same⟩ := ihSecond never.2 way there
        exact ⟨Bool.or_eq_true_iff.2 (.inr empty), same⟩
  | optional inner ih =>
      intro way member
      rcases List.mem_append.1 member with here | there
      · exact ⟨rfl, (ih never way here).2⟩
      · rw [List.mem_singleton] at there
        exact ⟨rfl, by rw [there]⟩
  | group number inner ih =>
      intro way member
      obtain ⟨inside, described, rfl⟩ := List.mem_map.1 member
      exact ih never inside described
  | nothing =>
      intro way member
      rw [ways, List.mem_singleton] at member
      exact ⟨rfl, by rw [member]⟩
  | finish => exact nofun

/-- Something is there in every text that a pattern describes, and it does not begin
with a character of a class. -/
structure Apart (pattern : Pattern) (follow : Char → Bool) : Prop where
  solid : pattern.nullable = false
  separate : ∀ char, follow char = true → pattern.starts char = false

theorem Apart.narrow {pattern : Pattern} {follow wide : Char → Bool} (apart : pattern.Apart wide)
    (narrower : ∀ char, follow char = true → wide char = true) : pattern.Apart follow where
  solid := apart.solid
  separate := fun char member => apart.separate char (narrower char member)

theorem Apart.ways_eq {pattern : Pattern} {follow : Char → Bool} (apart : pattern.Apart follow)
    {char : Char} (member : follow char = true) (rest : List Char) :
    pattern.ways (char :: rest) = [] := by
  rw [List.eq_nil_iff_forall_not_mem]
  intro way described
  have empty := (nullable_of_not_starts (apart.separate char member) way described).1
  rw [apart.solid] at empty
  contradiction

/-- A text that begins with a pattern that is apart from a class does not begin with a
character of the class. -/
theorem Apart.head {pattern : Pattern} {follow : Char → Bool} (apart : pattern.Apart follow)
    {text : List Char} (found : (pattern.at? text).isSome) :
    ∀ char ∈ text.head?, follow char = false := by
  intro char starts
  obtain ⟨rest, rfl⟩ := List.head?_eq_some_iff.1 starts
  rw [← Bool.not_eq_true]
  intro member
  rw [at?, apart.ways_eq member rest] at found
  contradiction

/-- What begins with a pattern that is apart from a class refuses the class. -/
theorem Apart.refuses {α : Type} {pattern : Pattern} {follow : Char → Bool}
    (apart : pattern.Apart follow) (next : Captures → Captures → List Char → Option α) :
    Refuses follow fun captures => pattern.first (next captures) :=
  fun _ _ rest member => first_eq_none (apart.ways_eq member rest)

/-! ## Patterns and readers -/

/-- A reader takes something off the front of a text. -/
abbrev Reader := List Char → Option (List Char × List Char)

/-- What a reader takes is what stands in front of what it leaves. -/
def Splits (reader : Reader) : Prop :=
  ∀ {text run rest}, reader text = some (run, rest) → text = run ++ rest

theorem suffix_of_splits {reader : Reader} (splits : Splits reader) {text : List Char}
    {read : List Char × List Char} (reading : reader text = some read) : read.2 <:+ text :=
  ⟨read.1, (splits reading).symm⟩

/-- A pattern without groups describes what a reader takes, if one cannot go on behind
it with a character of a class. -/
structure Reads (pattern : Pattern) (follow : Char → Bool) (reader : Reader) : Prop where
  first_eq : ∀ {α : Type} (next : Captures → List Char → Option α), Refuses follow next →
    ∀ text, pattern.first next text = (reader text).bind fun read => next [] read.2
  splits : Splits reader

/-- A pattern without groups describes what a reader takes, if one can go on behind it
in any case. -/
structure ReadsLast (pattern : Pattern) (reader : Reader) : Prop where
  at?_eq : ∀ text, pattern.at? text = (reader text).map fun read => ([], read.2)
  splits : Splits reader

theorem taken_append (run rest : List Char) : taken (run ++ rest) rest = run := by
  simp [taken]

section Readers

variable {α : Type} {next : Captures → List Char → Option α} {text : List Char}
  {pattern : Pattern} {patterns : List Pattern} {follow : Char → Bool} {reader : Reader}

theorem Reads.first_cons (reads : pattern.Reads follow reader)
    (apart : (inOrder patterns).Apart follow) :
    (inOrder (pattern :: patterns)).first next text =
      (reader text).bind fun read => (inOrder patterns).first next read.2 := by
  rw [first_inOrder_cons, reads.first_eq _ (apart.refuses _)]
  rfl

/-- A group holds what is read. -/
theorem Reads.first_group_cons (reads : pattern.Reads follow reader) (number : Nat)
    (apart : (inOrder patterns).Apart follow) :
    (inOrder (group number pattern :: patterns)).first next text =
      (reader text).bind fun read =>
        (inOrder patterns).first (fun more => next ((number, read.1) :: more)) read.2 := by
  rw [first_inOrder_cons, first_group, reads.first_eq]
  · refine Option.bind_congr fun read reading => ?_
    rw [reads.splits reading, taken_append]
    rfl
  · exact fun captures char rest member => first_eq_none (apart.ways_eq member rest)

/-- A group holds what is read last. -/
theorem ReadsLast.first_group (reads : pattern.ReadsLast reader) (number : Nat)
    (accepts : Accepts next) :
    (group number pattern).first next text =
      (reader text).bind fun read => next [(number, read.1)] read.2 := by
  rw [Pattern.first_group,
    first_of_accepts fun captures rest => accepts ((number, taken text rest) :: captures) rest,
    reads.at?_eq, Option.bind_map]
  refine Option.bind_congr fun read reading => ?_
  rw [Function.comp_apply, reads.splits reading, taken_append]

/-- A group holds what is read, if something follows that may also be left out. -/
theorem ReadsLast.first_group_cons (reads : pattern.ReadsLast reader) (number : Nat)
    (total : (inOrder patterns).Total) (accepts : Accepts next) :
    (inOrder (group number pattern :: patterns)).first next text =
      (reader text).bind fun read =>
        (inOrder patterns).first (fun more => next ((number, read.1) :: more)) read.2 := by
  rw [first_inOrder_cons, reads.first_group number]
  · rfl
  · exact accepts_first total fun captures more rest => accepts (captures ++ more) rest

/-! ### Readers one behind the other -/

/-- One reader behind another one. -/
def both (front back : Reader) : Reader := fun text =>
  (front text).bind fun read => (back read.2).map fun further => (read.1 ++ further.1, further.2)

theorem splits_both {front back : Reader} (splitsFront : Splits front) (splitsBack : Splits back) :
    Splits (both front back) := by
  intro text run rest read
  obtain ⟨first, starting, read⟩ := Option.bind_eq_some_iff.1 read
  obtain ⟨further, behind, same⟩ := Option.map_eq_some_iff.1 read
  cases same
  rw [splitsFront starting, splitsBack behind, List.append_assoc]

/-- A class that a pattern cannot begin with is refused by what begins with the pattern,
unless the pattern can be empty and the class may follow it. -/
theorem refuses_first {next : Captures → Captures → List Char → Option α}
    {later : Char → Bool}
    (separate : ∀ char, follow char = true →
      pattern.starts char = false ∧ (pattern.nullable = true → later char = true))
    (refuses : ∀ captures, Refuses later (next captures)) :
    Refuses follow fun captures => pattern.first (next captures) := by
  intro captures char rest member
  obtain ⟨never, allowed⟩ := separate char member
  change ((pattern.ways (char :: rest)).findSome? fun way => next captures way.1 way.2) = none
  rw [List.findSome?_eq_none_iff]
  intro way described
  obtain ⟨empty, same⟩ := nullable_of_not_starts never way described
  rw [same]
  exact refuses captures way.1 char rest (allowed empty)

theorem reads_nil (follow : Char → Bool) :
    (inOrder []).Reads follow fun text => some ([], text) where
  first_eq := fun _ _ _ => first_inOrder_nil
  splits := by
    rintro text run rest ⟨⟩
    rfl

/-- What a pattern reads and what the patterns behind it read is read together. -/
theorem Reads.cons {later : Char → Bool} {others : Reader} (reads : pattern.Reads follow reader)
    (readsOthers : (inOrder patterns).Reads later others)
    (separate : ∀ char, follow char = true → (inOrder patterns).starts char = false ∧
      ((inOrder patterns).nullable = true → later char = true)) :
    (inOrder (pattern :: patterns)).Reads later (both reader others) where
  first_eq := by
    intro α next refuses text
    have refusesOthers (captures : Captures) : Refuses later fun more => next (captures ++ more) :=
      fun more char rest member => refuses (captures ++ more) char rest member
    rw [first_inOrder_cons, reads.first_eq _ (refuses_first separate refusesOthers), both,
      Option.bind_assoc]
    refine Option.bind_congr fun read _ => ?_
    rw [readsOthers.first_eq _ (refusesOthers []), Option.bind_map]
    rfl
  splits := splits_both reads.splits readsOthers.splits

theorem Reads.congr {other : Reader} (reads : pattern.Reads follow reader)
    (same : ∀ text, reader text = other text) : pattern.Reads follow other := by
  rwa [← show reader = other from funext same]

/-- More may be refused behind what is read. -/
theorem Reads.widen {wide : Char → Bool} (reads : pattern.Reads follow reader)
    (wider : ∀ char, follow char = true → wide char = true) : pattern.Reads wide reader where
  first_eq := fun next refuses text =>
    reads.first_eq next (fun captures char rest member =>
      refuses captures char rest (wider char member)) text
  splits := reads.splits

/-- Two patterns that never fit the same text. -/
theorem Reads.either {other : Pattern} {otherReader : Reader} (reads : pattern.Reads follow reader)
    (readsOther : other.Reads follow otherReader)
    (exclusive : ∀ text, (reader text).isSome → otherReader text = none) :
    (either pattern other).Reads follow fun text => (reader text).or (otherReader text) where
  first_eq := by
    intro α next refuses text
    rw [first_either, reads.first_eq next refuses, readsOther.first_eq next refuses]
    cases found : reader text with
    | none => rfl
    | some read =>
        rw [exclusive text (by rw [found]; rfl), Option.bind_none, Option.or_none]
        rfl
  splits := by
    intro text run rest read
    rcases Option.or_eq_some_iff.1 read with here | ⟨-, there⟩
    · exact reads.splits here
    · exact readsOther.splits there

/-! ### Readers of what stands last -/

/-- If nothing at all is refused behind a pattern, then it may stand last. -/
theorem Reads.last (reads : pattern.Reads (fun _ => false) reader) : pattern.ReadsLast reader where
  at?_eq := by
    intro text
    rw [at?_eq_first, reads.first_eq _ fun _ _ _ => nofun]
    cases reader text <;> rfl
  splits := reads.splits

theorem readsLast_nil : (inOrder []).ReadsLast fun text => some ([], text) :=
  (reads_nil fun _ => false).last

theorem ReadsLast.first_cons (reads : pattern.ReadsLast reader)
    (total : (inOrder patterns).Total) (accepts : Accepts next) :
    (inOrder (pattern :: patterns)).first next text =
      (reader text).bind fun read => (inOrder patterns).first next read.2 := by
  have goes :
      Accepts fun captures => (inOrder patterns).first fun more => next (captures ++ more) :=
    accepts_first total fun captures more rest => accepts (captures ++ more) rest
  rw [first_inOrder_cons, first_of_accepts goes, reads.at?_eq, Option.bind_map]
  rfl

theorem ReadsLast.cons {others : Reader} (reads : pattern.ReadsLast reader)
    (total : (inOrder patterns).Total) (readsOthers : (inOrder patterns).ReadsLast others) :
    (inOrder (pattern :: patterns)).ReadsLast (both reader others) where
  at?_eq := by
    intro text
    rw [at?_eq_first, reads.first_cons total fun _ _ => rfl, both, Option.map_bind]
    refine Option.bind_congr fun read _ => ?_
    rw [← at?_eq_first, readsOthers.at?_eq, Function.comp_apply, Option.map_map]
    rfl
  splits := splits_both reads.splits readsOthers.splits

theorem ReadsLast.congr {other : Reader} (reads : pattern.ReadsLast reader)
    (same : ∀ text, reader text = other text) : pattern.ReadsLast other := by
  rwa [← show reader = other from funext same]

/-- What may be left out is there if it can be. -/
theorem ReadsLast.optional (reads : pattern.ReadsLast reader) :
    (optional pattern).ReadsLast fun text => some ((reader text).getD ([], text)) where
  at?_eq := by
    intro text
    rw [at?_eq_first, first_optional_of_accepts fun _ _ => rfl, reads.at?_eq]
    cases reader text <;> rfl
  splits := by
    intro text run rest read
    rw [Option.some.injEq] at read
    cases found : reader text with
    | none =>
        rw [found] at read
        cases read
        rfl
    | some written =>
        rw [found] at read
        cases read
        exact reads.splits found

end Readers

end Pattern

end DiagramGraph
