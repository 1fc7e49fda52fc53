import DiagramGraph.Json.Token

/-!
# Reading JSON

The reader is a pushdown automaton over tokens. Its state says what may come
next; a stack holds the containers that are open around that place, each with
what has been read of it. The number of open containers is limited. Input that
the automaton refuses is no JSON text; no distinction is made between the ways
of being wrong.
-/

namespace DiagramGraph.Json

/-- An open container in which a value is being read. The items of an array are
held latest first; an object waits for the value of `key`. -/
inductive Frame where
  | array (items : List Value)
  | object (fields : List (String × Value)) (key : String)

/-- What may come next, inside the open containers. -/
inductive State where
  | atValue (stack : List Frame)
  | atFirstItem (stack : List Frame)
  | afterItem (items : List Value) (stack : List Frame)
  | atFirstKey (stack : List Frame)
  | atKey (fields : List (String × Value)) (stack : List Frame)
  | atColon (fields : List (String × Value)) (key : String) (stack : List Frame)
  | afterField (fields : List (String × Value)) (stack : List Frame)
  | complete (value : Value)

/-- The state after a value has been read in full. -/
def State.deliver (value : Value) : List Frame → State
  | [] => .complete value
  | .array items :: stack => .afterItem (value :: items) stack
  | .object fields key :: stack => .afterField (put fields key value) stack

/-- The state after the first token of a value. -/
def State.begin (limit : Nat) (stack : List Frame) : Token → Option State
  | .openArray => if stack.length < limit then some (.atFirstItem stack) else none
  | .openObject => if stack.length < limit then some (.atFirstKey stack) else none
  | .string text => some (.deliver (.string (String.ofList text)) stack)
  | .number value => some (.deliver (.number value) stack)
  | .boolean value => some (.deliver (.boolean value) stack)
  | .null => some (.deliver .null stack)
  | _ => none

/-- The state after one more token. -/
def State.step (limit : Nat) : State → Token → Option State
  | .atValue stack, token => State.begin limit stack token
  | .atFirstItem stack, .closeArray => some (.deliver (.array []) stack)
  | .atFirstItem stack, token => State.begin limit (.array [] :: stack) token
  | .afterItem items stack, .comma => some (.atValue (.array items :: stack))
  | .afterItem items stack, .closeArray => some (.deliver (.array items.reverse) stack)
  | .atFirstKey stack, .closeObject => some (.deliver (.object []) stack)
  | .atFirstKey stack, .string text => some (.atColon [] (String.ofList text) stack)
  | .atKey fields stack, .string text => some (.atColon fields (String.ofList text) stack)
  | .atColon fields key stack, .colon => some (.atValue (.object fields key :: stack))
  | .afterField fields stack, .comma => some (.atKey fields stack)
  | .afterField fields stack, .closeObject => some (.deliver (.object fields) stack)
  | _, _ => none

/-- The state after a sequence of tokens. -/
def State.run (limit : Nat) : State → List Token → Option State
  | state, [] => some state
  | state, token :: rest => (state.step limit token).bind fun next => next.run limit rest

/-- The value that a text denotes, if the text is JSON and opens at most `limit`
containers at once. -/
def read? (limit : Nat) (text : List Char) : Option Value := do
  let tokens ← tokens? text
  match ← State.run limit (.atValue []) tokens with
  | .complete value => some value
  | _ => none

end DiagramGraph.Json
