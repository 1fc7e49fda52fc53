import DiagramGraph.Graph.Document
import DiagramGraph.Proofs.Detection.Remark
import Mathlib.Logic.Relation

/-!
# Layout of a source

Blanks at both ends of a line do not count, and neither does the sort of a line
end. The lines of content are trimmed, so they stay what they are. Detection
looks at the text as a whole, but blanks only ever separate what it looks for, and
a gap separates the same whatever blanks it is made of. So two sources that differ
in their layout only are the same diagram.
-/

namespace DiagramGraph

open DiagramGraph.Text DiagramGraph.Detection

/-! ## Changes of layout -/

/-- Blanks none of which ends a line. -/
def IsPadding (padding : List Char) : Prop :=
  ∀ char ∈ padding, isBlank char = true ∧ char ≠ '\n'

/-- A text has something added to its layout: a carriage return before a line
end, or padding at the start or at the end of a line. -/
inductive Respaced : List Char → List Char → Prop where
  | lineEnd (front back : List Char) :
      Respaced (front ++ '\n' :: back) (front ++ '\r' :: '\n' :: back)
  | indent {front padding : List Char} (start : ∀ last ∈ front.getLast?, last = '\n')
      (pads : IsPadding padding) (back : List Char) :
      Respaced (front ++ back) (front ++ (padding ++ back))
  | trail (front : List Char) {padding back : List Char} (pads : IsPadding padding)
      (finish : ∀ first ∈ back.head?, first = '\n') :
      Respaced (front ++ back) (front ++ (padding ++ back))

/-- A text is made from another by adding to its layout and by taking away from
it. -/
def Relaid : List Char → List Char → Prop :=
  Relation.EqvGen Respaced

/-! ## Lines of content -/

section Padding

variable {padding : List Char} (pads : IsPadding padding)

include pads

theorem IsPadding.blank : ∀ char ∈ padding, isBlank char = true :=
  fun char member => (pads char member).1

theorem IsPadding.single : '\n' ∉ padding :=
  fun member => (pads '\n' member).2 rfl

theorem IsPadding.contentLines_append (text : List Char) :
    contentLines (padding ++ text) = contentLines text := by
  have onLine {line : List Char} (single : '\n' ∉ line) :
      contentLines (padding ++ line) = contentLines line := by
    rw [contentLines_of_notMem (by simp [pads.single, single]), contentLines_of_notMem single,
      trim_blanks_append pads.blank]
  by_cases several : '\n' ∈ text
  · obtain ⟨line, others, rfl, single⟩ := List.eq_append_cons_of_mem several
    rw [← List.append_assoc, Text.contentLines_append, Text.contentLines_append,
      onLine single]
  · exact onLine several

theorem IsPadding.contentLines_behind (text : List Char) :
    contentLines (text ++ padding) = contentLines text := by
  have onLine {line : List Char} (single : '\n' ∉ line) :
      contentLines (line ++ padding) = contentLines line := by
    rw [contentLines_of_notMem (by simp [pads.single, single]), contentLines_of_notMem single,
      trim_append_blanks pads.blank]
  by_cases several : '\n' ∈ text.reverse
  · obtain ⟨line, others, reversed, single⟩ := List.eq_append_cons_of_mem several
    have split : text = others.reverse ++ '\n' :: line.reverse := by
      rw [← List.reverse_reverse text, reversed]
      simp
    rw [split, List.append_assoc, List.cons_append, Text.contentLines_append,
      Text.contentLines_append, onLine (by simpa using single)]
  · exact onLine (by simpa using several)

end Padding

/-! ## Signs of the kind -/

/-- Detection finds the same in two texts. -/
structure ShowsAlike (source other : List Char) : Prop where
  directives : directives other = directives source
  announced : ∀ keyword ∈ tellingKeywords,
    (Announced keyword.1 other ↔ Announced keyword.1 source)
  arrow : ContainsArrow other ↔ ContainsArrow source

theorem ShowsAlike.kind?_eq {source other : List Char} (alike : ShowsAlike source other) :
    kind? other = kind? source := by
  rw [Detection.kind?_eq, Detection.kind?_eq, alike.directives,
    guess_congr alike.announced alike.arrow]

/-- The keywords are made of visible characters. -/
theorem visible_of_mem_tellingKeywords : ∀ keyword ∈ tellingKeywords,
    keyword.1 ≠ [] ∧ keyword.1.any isBlank = false := by
  decide

section Gap

variable {gap : List Char} (blank : ∀ char ∈ gap, isBlank char = true) {keyword : List Char}
  (nonempty : keyword ≠ []) (visible : keyword.any isBlank = false)

include blank

theorem directives_blanks_append (text : List Char) : directives (gap ++ text) = directives text :=
  directives_append_of_notMem
    (fun member => absurd (blank '@' member) (by decide)) text

theorem containsArrow_blanks_append_iff {text : List Char} :
    ContainsArrow (gap ++ text) ↔ ContainsArrow text := by
  induction gap with
  | nil => rfl
  | cons char gap ih =>
      have parts := List.forall_mem_cons.1 blank
      have split : ContainsArrow ([] ++ char :: (gap ++ text)) ↔ _ :=
        containsArrow_append_iff parts.1
      rw [List.nil_append, ih parts.2] at split
      simpa only [List.cons_append, not_containsArrow_nil, false_or] using split

theorem wordAhead_blanks_append_iff {text : List Char} :
    WordAhead (gap ++ text) ↔ WordAhead text := by
  constructor
  · rintro ⟨skipped, blankSkipped, first, rest, split, word⟩
    rcases List.append_eq_append_iff.1 split with ⟨others, rfl, rfl⟩ | ⟨others, rfl, cut⟩
    · rw [List.forall_mem_append] at blankSkipped
      exact ⟨others, blankSkipped.2, first, rest, rfl, word⟩
    · cases others with
      | nil => exact ⟨[], by simp, first, rest, cut.symm, word⟩
      | cons other others =>
          cases (List.cons.inj cut).1
          rw [isWord_eq_false_of_isBlank (blank first (by simp))] at word
          contradiction
  · rintro ⟨skipped, blankSkipped, first, rest, rfl, word⟩
    have both := List.forall_mem_append.2 ⟨blank, blankSkipped⟩
    exact ⟨gap ++ skipped, both, first, rest, by simp, word⟩

include nonempty visible

theorem announced_blanks_append_iff {text : List Char} :
    Announced keyword (gap ++ text) ↔ Announced keyword text := by
  induction gap with
  | nil => rfl
  | cons char gap ih =>
      have parts := List.forall_mem_cons.1 blank
      have split : Announced keyword ([] ++ char :: (gap ++ text)) ↔ _ :=
        announced_append_iff parts.1 (notMem_of_isBlank parts.1 visible)
      rw [List.nil_append, ih parts.2] at split
      simpa only [List.cons_append, not_announced_nil nonempty, not_pending_nil nonempty, false_and,
        false_or] using split

end Gap

/-! ## Signs on both sides of a gap -/

section Sides

variable {gap : List Char} (nonempty : gap ≠ []) (blank : ∀ char ∈ gap, isBlank char = true)
  (front back : List Char)

include nonempty blank

theorem directives_gap :
    directives (front ++ (gap ++ back)) = directives front ++ directives back := by
  obtain ⟨char, others, rfl⟩ := List.exists_cons_of_ne_nil nonempty
  have parts := List.forall_mem_cons.1 blank
  rw [List.cons_append, directives_append parts.1, directives_blanks_append parts.2]

theorem containsArrow_gap_iff :
    ContainsArrow (front ++ (gap ++ back)) ↔ ContainsArrow front ∨ ContainsArrow back := by
  obtain ⟨char, others, rfl⟩ := List.exists_cons_of_ne_nil nonempty
  have parts := List.forall_mem_cons.1 blank
  rw [List.cons_append, containsArrow_append_iff parts.1, containsArrow_blanks_append_iff parts.2]

/-- How a gap looks does not matter for what is announced over it. -/
theorem announced_gap_iff {keyword : List Char} (word : keyword ≠ [])
    (visible : keyword.any isBlank = false) :
    Announced keyword (front ++ (gap ++ back)) ↔
      Announced keyword front ∨ (Pending keyword front ∧ WordAhead back) ∨
        Announced keyword back := by
  obtain ⟨char, others, rfl⟩ := List.exists_cons_of_ne_nil nonempty
  have parts := List.forall_mem_cons.1 blank
  rw [List.cons_append, announced_append_iff parts.1 (notMem_of_isBlank parts.1 visible),
    wordAhead_blanks_append_iff parts.2, announced_blanks_append_iff parts.2 word visible]

/-- A gap shows nothing itself, so one may stand for another. -/
theorem showsAlike_gap {other : List Char} (otherNonempty : other ≠ [])
    (otherBlank : ∀ char ∈ other, isBlank char = true) :
    ShowsAlike (front ++ (gap ++ back)) (front ++ (other ++ back)) where
  directives := by
    rw [directives_gap nonempty blank, directives_gap otherNonempty otherBlank]
  announced := by
    intro keyword member
    obtain ⟨word, visible⟩ := visible_of_mem_tellingKeywords keyword member
    rw [announced_gap_iff nonempty blank front back word visible,
      announced_gap_iff otherNonempty otherBlank front back word visible]
  arrow := by
    rw [containsArrow_gap_iff nonempty blank, containsArrow_gap_iff otherNonempty otherBlank]

end Sides

section Ends

variable {gap : List Char} (blank : ∀ char ∈ gap, isBlank char = true) (text : List Char)

include blank

/-- At its start a text may have any gap. -/
theorem showsAlike_indented : ShowsAlike text (gap ++ text) where
  directives := directives_blanks_append blank text
  announced := by
    intro keyword member
    obtain ⟨word, visible⟩ := visible_of_mem_tellingKeywords keyword member
    exact announced_blanks_append_iff blank word visible
  arrow := containsArrow_blanks_append_iff blank

/-- And so it may at its end. -/
theorem showsAlike_trailed : ShowsAlike text (text ++ gap) := by
  cases gap with
  | nil =>
      rw [List.append_nil]
      exact ⟨rfl, fun _ _ => Iff.rfl, Iff.rfl⟩
  | cons char gap =>
      have whole : text ++ char :: gap = text ++ ((char :: gap) ++ []) := by
        rw [List.append_nil]
      have nonempty : char :: gap ≠ [] := List.cons_ne_nil char gap
      rw [whole]
      refine ⟨?_, ?_, ?_⟩
      · rw [directives_gap nonempty blank]
        exact List.append_nil _
      · intro keyword member
        obtain ⟨word, visible⟩ := visible_of_mem_tellingKeywords keyword member
        rw [announced_gap_iff nonempty blank text [] word visible]
        simp only [not_announced_nil word, not_wordAhead_nil, and_false, or_false]
      · rw [containsArrow_gap_iff nonempty blank]
        simp only [not_containsArrow_nil, or_false]

end Ends

/-! ## Sources that differ in layout -/

/-- Two texts have the same lines of content and show the same. -/
structure ReadsAlike (source other : List Char) : Prop extends ShowsAlike source other where
  content : contentLines other = contentLines source

theorem readsAlike_refl (source : List Char) : ReadsAlike source source :=
  { directives := rfl
    announced := fun _ _ => Iff.rfl
    arrow := Iff.rfl
    content := rfl }

section Alike

variable {source other further : List Char}

theorem ReadsAlike.symm (alike : ReadsAlike source other) : ReadsAlike other source :=
  { directives := alike.directives.symm
    announced := fun keyword member => (alike.announced keyword member).symm
    arrow := alike.arrow.symm
    content := alike.content.symm }

theorem ReadsAlike.trans (first : ReadsAlike source other) (second : ReadsAlike other further) :
    ReadsAlike source further :=
  { directives := second.directives.trans first.directives
    announced := fun keyword member =>
      (second.announced keyword member).trans (first.announced keyword member)
    arrow := second.arrow.trans first.arrow
    content := second.content.trans first.content }

end Alike

section Padding

variable {padding : List Char} (pads : IsPadding padding)

include pads

/-- Padding at the start of the line behind a text. -/
theorem readsAlike_indent {front : List Char} (start : ∀ last ∈ front.getLast?, last = '\n')
    (back : List Char) : ReadsAlike (front ++ back) (front ++ (padding ++ back)) := by
  rcases List.eq_nil_or_concat front with rfl | ⟨front, last, rfl⟩
  · exact
      { toShowsAlike := showsAlike_indented pads.blank back
        content := pads.contentLines_append back }
  · cases start last (by simp)
    -- The line end was a gap by itself, and the padding only makes the gap longer.
    have blank : ∀ char ∈ '\n' :: padding, isBlank char = true :=
      List.forall_mem_cons.2 ⟨isBlank_lineEnd, pads.blank⟩
    have alike : ShowsAlike (front ++ (['\n'] ++ back)) (front ++ ('\n' :: padding ++ back)) :=
      showsAlike_gap (by simp) (by simp [isBlank_lineEnd]) front back (by simp) blank
    simp only [List.concat_eq_append, List.append_assoc, List.singleton_append]
    exact
      { toShowsAlike := alike
        content := by
          rw [contentLines_append, contentLines_append, pads.contentLines_append] }

/-- Padding at the end of the line in front of a text. -/
theorem readsAlike_trail (front : List Char) {back : List Char}
    (finish : ∀ first ∈ back.head?, first = '\n') :
    ReadsAlike (front ++ back) (front ++ (padding ++ back)) := by
  cases back with
  | nil =>
      rw [List.append_nil, List.append_nil]
      exact
        { toShowsAlike := showsAlike_trailed pads.blank front
          content := pads.contentLines_behind front }
  | cons first back =>
      cases finish first rfl
      have blank : ∀ char ∈ padding ++ ['\n'], isBlank char = true :=
        List.forall_mem_append.2 ⟨pads.blank, by simp [isBlank_lineEnd]⟩
      have alike : ShowsAlike (front ++ (['\n'] ++ back)) (front ++ (padding ++ ['\n'] ++ back)) :=
        showsAlike_gap (by simp) (by simp [isBlank_lineEnd]) front back (by simp) blank
      rw [List.append_assoc] at alike
      exact
        { toShowsAlike := alike
          content := by
            rw [← List.append_assoc, contentLines_append, contentLines_append,
              pads.contentLines_behind] }

end Padding

/-- One change of layout does not change how a text is read. -/
theorem Respaced.readsAlike {source other : List Char} (respaced : Respaced source other) :
    ReadsAlike source other := by
  cases respaced with
  | lineEnd front back =>
      have pads : IsPadding ['\r'] := by
        intro char member
        cases List.mem_singleton.1 member
        decide
      exact readsAlike_trail pads front (by simp)
  | indent start pads back => exact readsAlike_indent pads start back
  | trail front pads finish => exact readsAlike_trail pads front finish

/-- Nor do any number of them. -/
theorem Relaid.readsAlike {source other : List Char} (relaid : Relaid source other) :
    ReadsAlike source other := by
  induction relaid with
  | rel source other respaced => exact respaced.readsAlike
  | refl source => exact readsAlike_refl source
  | symm source other _ ih => exact ih.symm
  | trans source other further _ _ first second => exact first.trans second

/-- A source that is laid out differently is parsed as the same model or refused
for the same reason, and so its document is the same. -/
theorem parse_of_relaid {source other : String} (relaid : Relaid source.toList other.toList) :
    parse other = parse source ∧
      ∀ context base, convert other context base = convert source context base := by
  have alike := relaid.readsAlike
  have models (kind : DiagramKind) : Model.ofSource kind other = Model.ofSource kind source := by
    rw [Model.ofSource, Model.ofSource, entries, entries, alike.content]
  have detected : detect other = detect source := by
    rw [detect, detect, alike.kind?_eq]
  have parsed := (parse_eq_iff_detect_eq models).2 detected
  refine ⟨parsed, fun context base => ?_⟩
  rw [convert, convert, parsed]

/-- A class whose name stands two lines below its keyword. -/
def spacedSource : String :=
  "@startuml\r\nclass\n\nOrder\n@enduml"

/-- The same without the carriage return, but with blanks behind the keyword and
on the empty line. -/
def respacedSource : String :=
  "@startuml\nclass\u3000\n\t\nOrder\n@enduml"

theorem parse_respacedSource :
    Relaid spacedSource.toList respacedSource.toList ∧
      detect spacedSource = .ok .classes ∧
      parse respacedSource = parse spacedSource := by
  have returned : Respaced "@startuml\nclass\n\nOrder\n@enduml".toList spacedSource.toList := by
    have split : spacedSource.toList =
        "@startuml".toList ++ '\r' :: '\n' :: "class\n\nOrder\n@enduml".toList := by decide +kernel
    have plain : "@startuml\nclass\n\nOrder\n@enduml".toList =
        "@startuml".toList ++ '\n' :: "class\n\nOrder\n@enduml".toList := by decide +kernel
    rw [split, plain]
    exact .lineEnd _ _
  have trailed : Respaced "@startuml\nclass\n\nOrder\n@enduml".toList
      "@startuml\nclass\u3000\n\nOrder\n@enduml".toList := by
    have split : "@startuml\nclass\u3000\n\nOrder\n@enduml".toList =
        "@startuml\nclass".toList ++ (['\u3000'] ++ "\n\nOrder\n@enduml".toList) := by
      decide +kernel
    have plain : "@startuml\nclass\n\nOrder\n@enduml".toList =
        "@startuml\nclass".toList ++ "\n\nOrder\n@enduml".toList := by decide +kernel
    have finish : ∀ first ∈ "\n\nOrder\n@enduml".toList.head?, first = '\n' := by simp
    have padding : IsPadding ['\u3000'] := List.forall_mem_singleton.2 (by decide +kernel)
    rw [split, plain]
    exact .trail _ padding finish
  have indented : Respaced "@startuml\nclass\u3000\n\nOrder\n@enduml".toList
      respacedSource.toList := by
    have split : respacedSource.toList =
        "@startuml\nclass\u3000\n".toList ++ (['\t'] ++ "\nOrder\n@enduml".toList) := by
      decide +kernel
    have plain : "@startuml\nclass\u3000\n\nOrder\n@enduml".toList =
        "@startuml\nclass\u3000\n".toList ++ "\nOrder\n@enduml".toList := by decide +kernel
    have start : ∀ last ∈ "@startuml\nclass\u3000\n".toList.getLast?, last = '\n' := by simp
    have padding : IsPadding ['\t'] := List.forall_mem_singleton.2 (by decide +kernel)
    rw [split, plain]
    exact .indent start padding _
  have relaid : Relaid spacedSource.toList respacedSource.toList :=
    .trans _ _ _ (.symm _ _ (.rel _ _ returned))
      (.trans _ _ _ (.rel _ _ trailed) (.rel _ _ indented))
  exact ⟨relaid, detect_of_kind? (by decide +kernel), (parse_of_relaid relaid).1⟩

end DiagramGraph
