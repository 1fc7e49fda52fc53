import DiagramGraph.Proofs.Entry.WellFormed
import DiagramGraph.Proofs.Pattern.Part
import Mathlib.Data.List.Basic

/-!
# Rules with patterns

A rule finds a pattern in a line and makes something of the captures. It reads some
groups without asking whether they are set, and it would fail on a group that is not.
A rule therefore names these groups, and each of them takes part in every way in which
its pattern describes a text.
-/

namespace DiagramGraph

open DiagramGraph.Text

/-- Why an access by index fails: there is no such group, no such element, or the part
of a text would begin behind its end. -/
inductive Fault where
  | group (number : Nat)
  | element (index : Nat)
  | part (start : Nat)
  deriving DecidableEq, Repr

namespace Captures

/-- The text of a group that has to be set. -/
def text (captures : Captures) (number : Nat) : Except Fault (List Char) :=
  match captures.lookup number with
  | some text => .ok text
  | none => .error (.group number)

/-- The trimmed text of a group, if it is set and something is left of it. -/
def optional (captures : Captures) (number : Nat) : Option (List Char) :=
  (captures.lookup number).bind nonBlank?

/-- Whether some groups are set. -/
def Sets (captures : Captures) (numbers : List Nat) : Prop :=
  ∀ number ∈ numbers, (captures.lookup number).isSome

instance (captures : Captures) (numbers : List Nat) : Decidable (captures.Sets numbers) :=
  inferInstanceAs (Decidable (∀ _ ∈ _, _))

variable {captures : Captures} {number : Nat}

theorem text_eq_ok {text : List Char} (set : captures.lookup number = some text) :
    captures.text number = .ok text := by
  rw [Captures.text, set]

/-- A group can be read if it is set. -/
theorem Sets.exists_text {numbers : List Nat} (sets : captures.Sets numbers) (number : Nat)
    (member : number ∈ numbers) : ∃ text, captures.text number = .ok text := by
  obtain ⟨text, set⟩ := Option.isSome_iff_exists.1 (sets number member)
  exact ⟨text, text_eq_ok set⟩

end Captures

namespace Pattern

variable {pattern : Pattern} {text : List Char} {captures : Captures} {numbers : List Nat}

/-! ## Groups of what is found -/

theorem sets_of_mem_ways (certain : ∀ number ∈ numbers, number ∈ pattern.certain)
    {way : Captures × List Char} (member : way ∈ pattern.ways text) : way.1.Sets numbers :=
  fun number inside => isSome_lookup_of_mem_certain (certain number inside) way member

theorem sets_of_captures? (certain : ∀ number ∈ numbers, number ∈ pattern.certain)
    (found : pattern.captures? text = some captures) : captures.Sets numbers := by
  obtain ⟨way, first, rfl⟩ := Option.map_eq_some_iff.1 found
  exact sets_of_mem_ways certain (List.mem_of_mem_head? first)

theorem sets_of_search? (certain : ∀ number ∈ numbers, number ∈ pattern.certain)
    (found : pattern.search? text = some captures) : captures.Sets numbers := by
  induction text with
  | nil => exact sets_of_captures? certain found
  | cons char rest ih =>
      rw [search?] at found
      split at found
      · next here =>
          cases found
          exact sets_of_captures? certain here
      · exact ih found

theorem sets_of_mem_all (certain : ∀ number ∈ numbers, number ∈ pattern.certain) {skipped : Nat}
    (found : captures ∈ pattern.all skipped text) : captures.Sets numbers := by
  induction text generalizing skipped with
  | nil => contradiction
  | cons char rest ih =>
      cases skipped with
      | succ skipped => exact ih found
      | zero =>
          rw [Pattern.all] at found
          split at found
          · next here =>
              rcases List.mem_cons.1 found with rfl | later
              · exact sets_of_mem_ways certain (List.mem_of_mem_head? here)
              · exact ih later
          · exact ih found

end Pattern

/-! ## Rules -/

/-- A pattern that is looked for at the start of a line or anywhere in it, what is made
of the line and its captures, and the groups that have to be set for it. -/
structure Rule (α : Type) where
  pattern : Pattern
  anywhere : Bool := false
  needed : List Nat
  make : List Char → Captures → Except Fault α
  certain : ∀ number ∈ needed, number ∈ pattern.certain
  makes : ∀ line captures, captures.Sets needed → ∃ made, make line captures = .ok made

namespace Rule

variable {α β : Type} {rule : Rule α} {line : List Char} {captures : Captures}

/-- The captures of a line. -/
def find? (rule : Rule α) (line : List Char) : Option Captures :=
  if rule.anywhere then rule.pattern.search? line else rule.pattern.captures? line

/-- What is made of a line. -/
def read (rule : Rule α) (line : List Char) : Except Fault (Option α) :=
  match rule.find? line with
  | some captures => (rule.make line captures).map some
  | none => .ok none

/-- The groups that are needed are set in all captures of a line. -/
theorem sets_of_find? (found : rule.find? line = some captures) : captures.Sets rule.needed := by
  rw [find?] at found
  split at found
  · exact Pattern.sets_of_search? rule.certain found
  · exact Pattern.sets_of_captures? rule.certain found

/-- No line makes a rule fail. -/
theorem exists_read (rule : Rule α) (line : List Char) : ∃ made, rule.read line = .ok made := by
  rw [read]
  split
  · next captures found =>
      obtain ⟨made, done⟩ := rule.makes line captures (sets_of_find? found)
      exact ⟨some made, by rw [done]; rfl⟩
  · exact ⟨none, rfl⟩

/-- The rule whose result is turned into something else. -/
def map (rule : Rule α) (turn : α → β) : Rule β where
  pattern := rule.pattern
  anywhere := rule.anywhere
  needed := rule.needed
  make line captures := (rule.make line captures).map turn
  certain := rule.certain
  makes := by
    intro line captures sets
    obtain ⟨made, done⟩ := rule.makes line captures sets
    exact ⟨turn made, by rw [done]; rfl⟩

/-- A rule makes of every single line what a reader makes of it. -/
def Agrees (rule : Rule α) (reader : List Char → Option α) : Prop :=
  ∀ line, '\n' ∉ line → rule.read line = .ok (reader line)

/-- Turning the result is all that a turned rule does besides. -/
theorem read_map (turn : α → β) (line : List Char) :
    (rule.map turn).read line = (rule.read line).map (Option.map turn) := by
  have found : (rule.map turn).find? line = rule.find? line := rfl
  rw [read, read, found]
  cases rule.find? line with
  | none => rfl
  | some captures =>
      dsimp only [Rule.map]
      cases rule.make line captures <;> rfl

theorem Agrees.map {reader : List Char → Option α} (agrees : rule.Agrees reader) (turn : α → β) :
    (rule.map turn).Agrees fun line => (reader line).map turn := by
  intro line single
  rw [read_map, agrees line single]
  rfl

/-- A rule agrees with a reader if its captures are those of the parts that the reader
takes off the line. -/
theorem read_eq {parts : Option β} {capturesOf : β → Captures} {made : β → α}
    (found : rule.find? line = parts.map capturesOf)
    (makes : ∀ part ∈ parts, rule.make line (capturesOf part) = .ok (made part)) :
    rule.read line = .ok (parts.map made) := by
  rw [read, found]
  cases parts with
  | none => rfl
  | some part =>
      change (rule.make line (capturesOf part)).map some = _
      rw [makes part rfl]
      rfl

end Rule

/-! ## Rules in order -/

/-- What the first rule makes of a line that makes something of it. -/
def readFirst {α : Type} : List (Rule α) → List Char → Except Fault (Option α)
  | [], _ => .ok none
  | rule :: rules, line => do
      match ← rule.read line with
      | some made => return some made
      | none => readFirst rules line

section InOrder

variable {α : Type} {rule : Rule α} {rules : List (Rule α)}

/-- No line makes one of several rules fail. -/
theorem exists_readFirst (rules : List (Rule α)) (line : List Char) :
    ∃ made, readFirst rules line = .ok made := by
  induction rules with
  | nil => exact ⟨none, rfl⟩
  | cons rule rules ih =>
      obtain ⟨made, done⟩ := rule.exists_read line
      rw [readFirst, done]
      cases made with
      | none => exact ih
      | some made => exact ⟨some made, rfl⟩

/-- The rules make of every single line what a reader makes of it. -/
def AgreeInOrder (rules : List (Rule α)) (reader : List Char → Option α) : Prop :=
  ∀ line, '\n' ∉ line → readFirst rules line = .ok (reader line)

theorem agreeInOrder_singleton {reader : List Char → Option α} (agrees : rule.Agrees reader) :
    AgreeInOrder [rule] reader := by
  intro line single
  rw [readFirst, agrees line single]
  cases reader line <;> rfl

theorem agreeInOrder_cons {first others : List Char → Option α} (agrees : rule.Agrees first)
    (agree : AgreeInOrder rules others) :
    AgreeInOrder (rule :: rules) fun line => first line <|> others line := by
  intro line single
  rw [readFirst, agrees line single]
  dsimp only
  cases first line with
  | none => exact agree line single
  | some made => rfl

/-- The rules of one list are tried before those of another one. -/
theorem readFirst_append (others : List (Rule α)) (line : List Char) :
    readFirst (rules ++ others) line =
      (readFirst rules line).bind fun made =>
        match made with
        | some made => .ok (some made)
        | none => readFirst others line := by
  induction rules with
  | nil => rfl
  | cons rule rules ih =>
      rw [List.cons_append, readFirst, readFirst]
      rcases rule.read line with fault | _ | made
      · rfl
      · exact ih
      · rfl

theorem agreeInOrder_append {others : List (Rule α)} {first second : List Char → Option α}
    (agree : AgreeInOrder rules first) (agreeOthers : AgreeInOrder others second) :
    AgreeInOrder (rules ++ others) fun line => first line <|> second line := by
  intro line single
  rw [readFirst_append, agree line single]
  dsimp only [Except.bind]
  cases first line with
  | none => exact agreeOthers line single
  | some made => rfl

/-- What the rules make is turned into something else. -/
theorem readFirst_map {β : Type} (turn : α → β) (line : List Char) :
    readFirst (rules.map fun rule => rule.map turn) line =
      (readFirst rules line).map (Option.map turn) := by
  induction rules with
  | nil => rfl
  | cons rule rules ih =>
      rw [List.map_cons, readFirst, readFirst, Rule.read_map]
      rcases rule.read line with fault | _ | made
      · rfl
      · exact ih
      · rfl

theorem AgreeInOrder.map {β : Type} {reader : List Char → Option α}
    (agree : AgreeInOrder rules reader) (turn : α → β) :
    AgreeInOrder (rules.map fun rule => rule.map turn) fun line => (reader line).map turn := by
  intro line single
  rw [readFirst_map, agree line single]
  rfl

end InOrder

end DiagramGraph
