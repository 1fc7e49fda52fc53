import DiagramGraph.Proofs.Detection.Rules
import DiagramGraph.Proofs.Pattern.Rule

/-!
# Directives as patterns

Directives are found one behind the other, and the word of each of them is read by the
number of its group until one of them tells the kind of the diagram. They cannot
overlap, because neither the rest of a mark nor a word holds an at sign.
-/

namespace DiagramGraph

open DiagramGraph.Text DiagramGraph.Detection

namespace Pattern

/-- A directive: `@start(\w+)`. -/
def directive : Pattern :=
  inOrder [literal directiveMark, group 1 word]

theorem at?_directive (text : List Char) :
    directive.at? text =
      (after? directiveMark text).bind fun rest =>
        (word? rest).map fun read => ([(1, read.1)], read.2) := by
  rw [at?_eq_first, directive, first_literal_cons]
  refine Option.bind_congr fun rest _ => ?_
  rw [first_inOrder_singleton, readsLast_word.first_group 1 fun _ _ => rfl, Option.map_eq_bind]
  rfl

/-- A directive is found where it begins. -/
theorem at?_of_directiveAt {text behind : List Char} (found : DirectiveAt text [] behind) :
    directive.at? text = some ([(1, directiveWord behind)], behind.dropWhile isWord) := by
  have opened : after? directiveMark text = some behind := after?_eq_some_iff.2 found.split
  have read : word? behind = some (directiveWord behind, behind.dropWhile isWord) :=
    run?_eq_some_iff.2 ⟨takeWhile_ne_nil_iff.2 found.word, rfl, rfl⟩
  rw [at?_directive, opened, Option.bind_some, read]
  rfl

theorem at?_eq_none_of_directiveAt? {text : List Char} (unopened : directiveAt? text = none) :
    directive.at? text = none := by
  rw [at?_directive]
  rw [directiveAt?] at unopened
  cases opened : after? directiveMark text with
  | none => rfl
  | some rest =>
      cases read : word? rest with
      | none => simp [read]
      | some run => simp [opened, read] at unopened

/-- The words of all directives are found one behind the other. -/
theorem all_directive (text : List Char) :
    directive.all 0 text = (directives text).map fun word => [(1, word)] := by
  match text with
  | [] => rfl
  | char :: rest =>
      cases opened : directiveAt? (char :: rest) with
      | none =>
          rw [all_cons_of_none (at?_eq_none_of_directiveAt? opened), all_directive rest,
            directives, opened, Option.toList_none, List.nil_append]
      | some word =>
          obtain ⟨behind, found, -⟩ := directiveAt?_eq_some_iff.1 opened
          have split : char :: rest =
              '@' :: (['s', 't', 'a', 'r', 't'] ++ directiveWord behind ++
                behind.dropWhile isWord) := by
            calc
              char :: rest = directiveMark ++ behind := found.split
              _ = directiveMark ++ (directiveWord behind ++ behind.dropWhile isWord) := by
                rw [directiveWord, List.takeWhile_append_dropWhile]
              _ = _ := by simp [directiveMark]
          have shorter : (behind.dropWhile isWord).length ≤ rest.length := by
            rw [(List.cons.inj split).2, List.length_append]
            exact Nat.le_add_left _ _
          have here := at?_of_directiveAt found
          rw [directives_of_directiveAt found, List.map_cons, ← all_directive]
          rw [split] at here ⊢
          exact all_cons_of_some here
termination_by text.length

end Pattern

/-! ## Detection -/

namespace Indexed

/-- The kind that the directives tell. `bare` tells whether a directive that leaves the
kind open came before them. -/
def decideKind (source : List Char) (bare : Bool) :
    List Captures → Except Fault (Except SourceError DiagramKind)
  | [] => return if bare then .ok (guess source) else .error .missingDirective
  | captures :: others => do
      let word ← captures.text 1
      if asciiLower word = bareWord then decideKind source true others
      else return .ok (.ofDirective (String.ofList (asciiLower word)))

/-- The kind of diagram that a source holds. -/
def detect (source : String) : Except Fault (Except SourceError DiagramKind) :=
  decideKind source.toList false (Pattern.directive.all 0 source.toList)

theorem decideKind_cons (source : List Char) (bare : Bool) (word : List Char)
    (others : List Captures) :
    decideKind source bare ([(1, word)] :: others) =
      if asciiLower word = bareWord then decideKind source true others
      else .ok (.ok (.ofDirective (String.ofList (asciiLower word)))) :=
  rfl

/-- The first word that tells the kind decides, and without one the content does if
there is any directive. -/
theorem decideKind_eq (source : List Char) (bare : Bool) (words : List (List Char)) :
    decideKind source bare (words.map fun word => [(1, word)]) =
      .ok (match words.find? isTelling with
        | some word => .ok (.ofDirective (String.ofList (asciiLower word)))
        | none =>
            if bare = true ∨ words ≠ [] then .ok (guess source) else .error .missingDirective) := by
  induction words generalizing bare with
  | nil => cases bare <;> rfl
  | cons word words ih =>
      rw [List.map_cons, decideKind_cons]
      by_cases leaves : asciiLower word = bareWord
      · have silent : ¬isTelling word = true := by simp [isTelling, leaves]
        rw [if_pos leaves, List.find?_cons_of_neg silent, ih]
        simp
      · have tells : isTelling word = true := by simp [isTelling, leaves]
        rw [if_neg leaves, List.find?_cons_of_pos tells]

/-- Detection reads the word of every directive that it meets. -/
theorem detect_eq (source : String) : detect source = .ok (DiagramGraph.detect source) := by
  rw [detect, Pattern.all_directive, decideKind_eq, DiagramGraph.detect, kind?_eq]
  cases directives source.toList with
  | nil => rfl
  | cons word words =>
      cases (word :: words).find? isTelling <;> simp

end Indexed

end DiagramGraph
