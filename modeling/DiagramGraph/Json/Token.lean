import DiagramGraph.Json.Number
import DiagramGraph.Json.Text

/-!
# JSON tokens

A JSON text is cut into tokens first. Between tokens there may be spaces, tabs
and line ends, and no other blanks. Two tokens that need no separator may touch;
whether they may follow one another is for the reader to say.
-/

namespace DiagramGraph.Json

/-- A token. Numbers, booleans and null stand for a value by themselves; a
string may also be a key. -/
inductive Token where
  | openArray
  | closeArray
  | openObject
  | closeObject
  | comma
  | colon
  | string (text : List Char)
  | number (value : Number)
  | boolean (value : Bool)
  | null
  deriving DecidableEq, Repr

/-- A character that may stand between tokens. -/
def isSeparator (char : Char) : Bool :=
  char == ' ' || char == '\t' || char == '\n' || char == '\r'

/-- The token at the start of a text. -/
def token? : List Char → Option (Token × List Char)
  | '[' :: rest => some (.openArray, rest)
  | ']' :: rest => some (.closeArray, rest)
  | '\x7b' :: rest => some (.openObject, rest)
  | '\x7d' :: rest => some (.closeObject, rest)
  | ',' :: rest => some (.comma, rest)
  | ':' :: rest => some (.colon, rest)
  | '"' :: rest => (stringBody? rest).map fun (text, rest) => (.string text, rest)
  | 't' :: 'r' :: 'u' :: 'e' :: rest => some (.boolean true, rest)
  | 'f' :: 'a' :: 'l' :: 's' :: 'e' :: rest => some (.boolean false, rest)
  | 'n' :: 'u' :: 'l' :: 'l' :: rest => some (.null, rest)
  | text => (number? text).map fun (value, rest) => (.number value, rest)

/-! ## Every token uses up some of the text -/

theorem stringBody?_length {text rest body : List Char}
    (read : stringBody? text = some (body, rest)) : rest.length < text.length := by
  fun_induction stringBody? text generalizing body rest with
  | case1 => simp_all
  | case2 => simp at read
  | case3 text _ char after charRead shorter ih =>
      simp only [Option.map_eq_some_iff, Prod.mk.injEq, Prod.exists] at read
      obtain ⟨_, _, bodyRead, _, rfl⟩ := read
      have := ih bodyRead
      omega

theorem digits?_length {text rest digits : List Char}
    (read : digits? text = some (digits, rest)) : rest.length < text.length := by
  unfold digits? at read
  split at read
  · simp at read
  · next first more taken =>
      simp only [Option.some.injEq, Prod.mk.injEq] at read
      obtain ⟨_, rfl⟩ := read
      have whole := congrArg List.length
        (List.takeWhile_append_dropWhile (p := Char.isDigit) (l := text))
      rw [taken] at whole
      simp only [List.length_append, List.length_cons] at whole
      omega

theorem whole?_length {text rest digits : List Char}
    (read : whole? text = some (digits, rest)) : rest.length < text.length := by
  unfold whole? at read
  split at read
  · simp only [Option.some.injEq, Prod.mk.injEq] at read
    obtain ⟨_, rfl⟩ := read
    simp
  · exact digits?_length read

theorem fraction?_length {text rest digits : List Char}
    (read : fraction? text = some (digits, rest)) : rest.length ≤ text.length := by
  unfold fraction? at read
  split at read
  · have := digits?_length read
    simp only [List.length_cons]
    omega
  · simp only [Option.some.injEq, Prod.mk.injEq] at read
    obtain ⟨_, rfl⟩ := read
    simp

theorem powerSign_length (text : List Char) : (powerSign text).2.length ≤ text.length := by
  unfold powerSign
  split <;> simp

theorem numberSign_length (text : List Char) : (numberSign text).2.length ≤ text.length := by
  unfold numberSign
  split <;> simp

theorem powerDigits?_length {text rest : List Char} {power : Int}
    (read : powerDigits? text = some (power, rest)) : rest.length ≤ text.length := by
  simp only [powerDigits?, Option.map_eq_some_iff, Prod.mk.injEq, Prod.exists] at read
  obtain ⟨_, _, digitsRead, _, rfl⟩ := read
  have := digits?_length digitsRead
  have := powerSign_length text
  omega

theorem power?_length {text rest : List Char} {power : Option Int}
    (read : power? text = some (power, rest)) : rest.length ≤ text.length := by
  unfold power? at read
  split at read
  · simp only [Option.map_eq_some_iff, Prod.mk.injEq, Prod.exists] at read
    obtain ⟨_, _, powerRead, _, rfl⟩ := read
    have := powerDigits?_length powerRead
    simp only [List.length_cons]
    omega
  · simp only [Option.map_eq_some_iff, Prod.mk.injEq, Prod.exists] at read
    obtain ⟨_, _, powerRead, _, rfl⟩ := read
    have := powerDigits?_length powerRead
    simp only [List.length_cons]
    omega
  · simp only [Option.some.injEq, Prod.mk.injEq] at read
    obtain ⟨_, rfl⟩ := read
    simp

theorem number?_length {text rest : List Char} {number : Number}
    (read : number? text = some (number, rest)) : rest.length < text.length := by
  simp only [number?, numberParts?, Option.bind_eq_bind, Option.bind_eq_some_iff,
    Option.pure_def, Option.some.injEq, Prod.mk.injEq, Prod.exists] at read
  obtain ⟨_, _, ⟨_, _, wholeRead, _, _, fractionRead, _, _, powerRead, _, rfl⟩, _, _, _, rfl⟩ :=
    read
  have := whole?_length wholeRead
  have := fraction?_length fractionRead
  have := power?_length powerRead
  have := numberSign_length text
  omega

/-- Reading a token uses up some of the text. -/
theorem token?_length {text rest : List Char} {token : Token}
    (read : token? text = some (token, rest)) : rest.length < text.length := by
  unfold token? at read
  split at read <;>
    try (simp only [Option.some.injEq, Prod.mk.injEq] at read
         obtain ⟨_, rfl⟩ := read
         simp only [List.length_cons]
         omega)
  · simp only [Option.map_eq_some_iff, Prod.mk.injEq, Prod.exists] at read
    obtain ⟨_, _, bodyRead, _, rfl⟩ := read
    have := stringBody?_length bodyRead
    simp only [List.length_cons]
    omega
  · simp only [Option.map_eq_some_iff, Prod.mk.injEq, Prod.exists] at read
    obtain ⟨_, _, numberRead, _, rfl⟩ := read
    exact number?_length numberRead

/-- The tokens of a text, if it consists of tokens only. -/
def tokens? (text : List Char) : Option (List Token) :=
  match text with
  | [] => some []
  | char :: rest =>
      if isSeparator char then tokens? rest
      else
        match _ : token? (char :: rest) with
        | none => none
        | some (token, after) => (tokens? after).map (token :: ·)
termination_by text.length
decreasing_by
  · exact Nat.lt_succ_self rest.length
  · exact token?_length ‹_›

end DiagramGraph.Json
