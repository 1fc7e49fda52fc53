import DiagramGraph.Proofs.Text.Utf8
import DiagramGraph.Service.Message

/-!
# Values of headers

Of the headers with a name only the first counts. Its value is a text if all of
its bytes are plain, and then it is the text whose bytes they are.
-/

namespace DiagramGraph.Service

open DiagramGraph.Text

/-! ## The first header with a name -/

/-- A header has a name that is given in lower case. -/
def Header.IsNamed (header : Header) (name : String) : Prop :=
  asciiLower header.name.toList = name.toList

/-- No header of a request has the name. -/
def Request.Lacks (request : Request) (name : String) : Prop :=
  ∀ header ∈ request.headers, ¬ header.IsNamed name

/-- The first header with the name has the value. -/
def Request.Gives (request : Request) (name : String) (value : List UInt8) : Prop :=
  ∃ before header after, request.headers = before ++ header :: after ∧ header.IsNamed name ∧
    header.value = value ∧ ∀ other ∈ before, ¬ other.IsNamed name

section Names

variable {request : Request} {name : String}

theorem header?_eq_none_iff : request.header? name = none ↔ request.Lacks name := by
  rw [Request.header?, Option.map_eq_none_iff, List.find?_eq_none]
  simp only [beq_iff_eq]
  rfl

theorem header?_eq_some_iff {value : List UInt8} :
    request.header? name = some value ↔ request.Gives name value := by
  rw [Request.header?, Option.map_eq_some_iff]
  constructor
  · rintro ⟨header, found, rfl⟩
    obtain ⟨named, before, after, split, earlier⟩ := List.find?_eq_some_iff_append.1 found
    refine ⟨before, header, after, split, eq_of_beq named, rfl, ?_⟩
    simpa [Header.IsNamed] using earlier
  · rintro ⟨before, header, after, split, named, rfl, earlier⟩
    refine ⟨header, List.find?_eq_some_iff_append.2 ⟨?_, before, after, split, ?_⟩, rfl⟩
    · exact beq_iff_eq.2 named
    · simpa [Header.IsNamed] using earlier

/-- The name of a header stands among others already, where case does not count. -/
def Header.Repeats (header : Header) (earlier : List Header) : Prop :=
  ∃ first ∈ earlier, asciiLower first.name.toList = asciiLower header.name.toList

/-- What is read of the headers does not depend on those that repeat a name. -/
theorem header?_of_repeats {before repeated after : List Header}
    (split : request.headers = before ++ repeated ++ after)
    (repeats : ∀ header ∈ repeated, header.Repeats before) :
    request.header? name = { request with headers := before ++ after }.header? name := by
  simp only [Request.header?, split, List.find?_append]
  cases found : before.find? fun header => asciiLower header.name.toList == name.toList with
  | some first => rfl
  | none =>
      -- A header with the name would repeat one that is in front of it.
      rw [List.find?_eq_none] at found
      have unnamed : repeated.find? (fun header => asciiLower header.name.toList == name.toList) =
          none := by
        rw [List.find?_eq_none]
        intro header member named
        obtain ⟨first, earlier, same⟩ := repeats header member
        apply found first earlier
        rwa [same]
      rw [unnamed, Option.or_none]

end Names

/-! ## Plain texts -/

/-- A byte is the code of a visible ASCII character, of the blank or of the tab. -/
def IsPlainByte (byte : UInt8) : Prop :=
  byte.toNat = 0x09 ∨ 0x20 ≤ byte.toNat ∧ byte.toNat ≤ 0x7e

/-- A text has visible ASCII characters, blanks and tabs only. -/
def IsPlain (text : String) : Prop :=
  ∀ char ∈ text.toList, char.toNat = 0x09 ∨ 0x20 ≤ char.toNat ∧ char.toNat ≤ 0x7e

instance (text : String) : Decidable (IsPlain text) :=
  List.decidableBAll _ text.toList

theorem isReadable_iff {byte : UInt8} : isReadable byte = true ↔ IsPlainByte byte := by
  simp only [isReadable, IsPlainByte, Bool.or_eq_true, Bool.and_eq_true, decide_eq_true_eq,
    beq_iff_eq]
  omega

theorem headerText?_eq_none_iff {value : List UInt8} :
    headerText? value = none ↔ ∃ byte ∈ value, ¬ IsPlainByte byte := by
  rw [headerText?, ite_eq_right_iff]
  simp [isReadable_iff]

/-- Each byte of a value is the code of a character. -/
theorem toNat_ofNat_byte (byte : UInt8) : (Char.ofNat byte.toNat).toNat = byte.toNat :=
  Utf8.toNat_char (.inl (Nat.lt_of_lt_of_le byte.toNat_lt (by decide)))

section Texts

variable {text : String} {char : Char}

theorem IsPlain.ascii (plain : IsPlain text) : ∀ char ∈ text.toList, char.toNat < 0x80 := by
  intro char member
  have code := plain char member
  omega

/-- The byte of a character of a plain text has its code. -/
theorem IsPlain.toNat_byte (plain : IsPlain text) (member : char ∈ text.toList) :
    (UInt8.ofNat char.toNat).toNat = char.toNat :=
  Utf8.toNat_ofNat (Nat.lt_trans (plain.ascii char member) (by decide))

end Texts

/-- The text of a value is the plain text with these bytes. -/
theorem headerText?_eq_some_iff {value : List UInt8} {text : String} :
    headerText? value = some text ↔ IsPlain text ∧ Utf8.encode text.toList = value := by
  rw [headerText?, Option.ite_none_right_eq_some, Option.some.injEq]
  constructor
  · rintro ⟨readable, rfl⟩
    have plain : IsPlain (String.ofList (value.map fun byte => Char.ofNat byte.toNat)) := by
      intro char member
      rw [String.toList_ofList] at member
      obtain ⟨byte, read, rfl⟩ := List.mem_map.1 member
      rw [toNat_ofNat_byte]
      exact isReadable_iff.1 (List.all_eq_true.1 readable byte read)
    refine ⟨plain, ?_⟩
    rw [Utf8.encode_of_ascii plain.ascii, String.toList_ofList, List.map_map]
    refine (List.map_congr_left fun byte _ => ?_).trans (List.map_id value)
    rw [Function.comp_apply, toNat_ofNat_byte, UInt8.ofNat_toNat, id]
  · rintro ⟨plain, rfl⟩
    rw [Utf8.encode_of_ascii plain.ascii]
    constructor
    · rw [List.all_eq_true, List.forall_mem_map]
      intro char member
      rw [isReadable_iff, IsPlainByte, plain.toNat_byte member]
      exact plain char member
    · rw [List.map_map, ← String.toList_inj, String.toList_ofList]
      refine (List.map_congr_left fun char member => ?_).trans (List.map_id text.toList)
      rw [Function.comp_apply, plain.toNat_byte member, Char.ofNat_toNat, id]

end DiagramGraph.Service
