import DiagramGraph.Json.Reader
import DiagramGraph.Proofs.Json.Tokens

/-!
# Values read back

The reader recognises the tokens of a value and delivers that value, provided
that the value does not open more containers at once than the reader allows and
that no object repeats a key. Together with the cutting of a text into tokens
this gives the round trip: a value that is written in either layout is read
back with its numbers settled, and unchanged if it has no doubles.
-/

namespace DiagramGraph.Json

/-! ## Recognising tokens -/

theorem put_of_notMem {fields : List (String × Value)} {key : String} (value : Value)
    (fresh : key ∉ fields.map Prod.fst) : put fields key value = fields ++ [(key, value)] := by
  induction fields with
  | nil => rfl
  | cons field fields ih =>
      obtain ⟨other, old⟩ := field
      simp only [List.map_cons, List.mem_cons, not_or] at fresh
      rw [put, if_neg (Ne.symm fresh.1), ih fresh.2, List.cons_append]

namespace State

theorem run_cons {limit : Nat} {state next : State} {token : Token} (tokens : List Token)
    (step : state.step limit token = some next) :
    run limit state (token :: tokens) = run limit next tokens := by
  rw [run, step, Option.bind_some]

/-- The first token of a value never closes an array. -/
theorem tokens_eq_cons (value : Value) :
    ∃ token rest, value.tokens = token :: rest ∧ token ≠ .closeArray := by
  cases value with
  | null => exact ⟨_, _, rfl, by simp⟩
  | boolean value => exact ⟨_, _, rfl, by simp⟩
  | number value => exact ⟨_, _, rfl, by simp⟩
  | string text => exact ⟨_, _, rfl, by simp⟩
  | array items => cases items <;> exact ⟨_, _, rfl, by simp⟩
  | object fields => cases fields <;> exact ⟨_, _, rfl, by simp⟩

/-- The first item of an array is read like any other value. -/
theorem run_atFirstItem (limit : Nat) (stack : List Frame) (value : Value) (more : List Token) :
    run limit (.atFirstItem stack) (value.tokens ++ more) =
      run limit (.atValue (.array [] :: stack)) (value.tokens ++ more) := by
  obtain ⟨token, rest, shape, opening⟩ := tokens_eq_cons value
  have same :
      State.step limit (.atFirstItem stack) token =
        State.step limit (.atValue (.array [] :: stack)) token := by
    cases token <;> first | rfl | contradiction
  rw [shape, List.cons_append, run, run, same]

/-- What is to be shown of a value: its tokens are recognised inside any
containers that leave room for it. -/
def Recognised (limit : Nat) (value : Value) : Prop :=
  ∀ stack more, stack.length + value.depth ≤ limit →
    run limit (.atValue stack) (value.tokens ++ more) = run limit (.deliver value stack) more

theorem run_itemTokens {limit : Nat} {items : List Value}
    (each : ∀ item ∈ items, Recognised limit item) (stack : List Frame) (done : List Value)
    (more : List Token) (room : stack.length + 1 + Value.itemsDepth items ≤ limit) :
    run limit (.afterItem done stack) (Value.itemTokens items ++ (.closeArray :: more)) =
      run limit (.deliver (.array (done.reverse ++ items)) stack) more := by
  induction items generalizing done with
  | nil =>
      rw [Value.itemTokens, List.nil_append, List.append_nil]
      exact run_cons more rfl
  | cons item items ih =>
      rw [Value.itemsDepth] at room
      have first :=
        each item (by simp) (.array done :: stack) (Value.itemTokens items ++ (.closeArray :: more))
          (by simp only [List.length_cons]; omega)
      have others :=
        ih (fun other member => each other (by simp [member])) (item :: done) (by omega)
      rw [Value.itemTokens, List.cons_append, List.append_assoc, run_cons _ rfl, first, deliver,
        others]
      simp

theorem run_fieldTokens {limit : Nat} {fields : List (String × Value)}
    (each : ∀ field ∈ fields, Recognised limit field.2) (stack : List Frame)
    (done : List (String × Value)) (more : List Token)
    (room : stack.length + 1 + Value.fieldsDepth fields ≤ limit)
    (distinct : ((done ++ fields).map Prod.fst).Nodup) :
    run limit (.afterField done stack) (Value.fieldTokens fields ++ (.closeObject :: more)) =
      run limit (.deliver (.object (done ++ fields)) stack) more := by
  induction fields generalizing done with
  | nil =>
      rw [Value.fieldTokens, List.nil_append, List.append_nil]
      exact run_cons more rfl
  | cons field fields ih =>
      obtain ⟨key, value⟩ := field
      rw [Value.fieldsDepth] at room
      have first :=
        each (key, value) (by simp) (.object done key :: stack)
          (Value.fieldTokens fields ++ (.closeObject :: more))
          (by simp only [List.length_cons]; omega)
      have fresh : key ∉ done.map Prod.fst := by
        rw [List.map_append, List.map_cons, List.nodup_append] at distinct
        intro known
        exact distinct.2.2 key known key (by simp) rfl
      have others :=
        ih (fun other member => each other (by simp [member])) (done ++ [(key, value)]) (by omega)
          (by simpa using distinct)
      rw [Value.fieldTokens, List.cons_append, List.cons_append, List.cons_append,
        List.append_assoc, run_cons _ rfl, run_cons _ rfl, run_cons _ rfl, String.ofList_toList,
        first, deliver, put_of_notMem value fresh]
      simpa using others

theorem recognised_array {limit : Nat} {items : List Value}
    (each : ∀ item ∈ items, Recognised limit item) : Recognised limit (.array items) := by
  intro stack more room
  rw [Value.depth] at room
  have opening : (State.atValue stack).step limit .openArray = some (.atFirstItem stack) :=
    if_pos (by omega)
  cases items with
  | nil =>
      rw [Value.tokens, List.cons_append, run_cons _ opening]
      exact run_cons more rfl
  | cons first others =>
      rw [Value.itemsDepth] at room
      have head := each first (by simp) (.array [] :: stack)
        (Value.itemTokens others ++ (.closeArray :: more))
        (by simp only [List.length_cons]; omega)
      have tail := run_itemTokens (fun other member => each other (List.mem_cons_of_mem _ member))
        stack [first] more (by omega)
      simp only [Value.tokens, List.cons_append, List.append_assoc, List.nil_append]
      rw [run_cons _ opening, run_atFirstItem, head, deliver, tail]
      rfl

theorem recognised_object {limit : Nat} {fields : List (String × Value)}
    (distinct : (fields.map Prod.fst).Nodup)
    (each : ∀ field ∈ fields, Recognised limit field.2) : Recognised limit (.object fields) := by
  intro stack more room
  rw [Value.depth] at room
  have opening : (State.atValue stack).step limit .openObject = some (.atFirstKey stack) :=
    if_pos (by omega)
  cases fields with
  | nil =>
      rw [Value.tokens, List.cons_append, run_cons _ opening]
      exact run_cons more rfl
  | cons field others =>
      obtain ⟨key, value⟩ := field
      rw [Value.fieldsDepth] at room
      have head := each (key, value) (by simp) (.object [] key :: stack)
        (Value.fieldTokens others ++ (.closeObject :: more))
        (by simp only [List.length_cons]; omega)
      have tail := run_fieldTokens
        (fun other member => each other (List.mem_cons_of_mem _ member))
        stack [(key, value)] more (by omega) distinct
      simp only [Value.tokens, List.cons_append, List.append_assoc, List.nil_append]
      rw [run_cons _ opening, run_cons _ rfl, run_cons _ rfl, String.ofList_toList, head,
        deliver, put, tail]
      rfl

/-- The tokens of a value are recognised as that value. -/
theorem run_tokens {sort : Number → Prop} {limit : Nat} {value : Value}
    (wellFormed : value.WellFormed sort) : Recognised limit value := by
  induction wellFormed with
  | null => exact fun stack more _ => run_cons more rfl
  | boolean value => exact fun stack more _ => run_cons more rfl
  | number accepted => exact fun stack more _ => run_cons more rfl
  | string text =>
      intro stack more _
      rw [Value.tokens, List.singleton_append, run_cons more rfl, String.ofList_toList]
  | array _ ih => exact recognised_array ih
  | object distinct _ ih => exact recognised_object distinct ih

end State

/-! ## The round trip -/

/-- A written value is read back with its numbers settled, in either layout and
with separators around it. -/
theorem read?_write {layout : Layout} (separating : layout.Separating) {value : Value}
    (wellFormed : value.WellFormed Number.Legible) {limit : Nat} (shallow : value.depth ≤ limit)
    {after : List Char} (blank : ∀ char ∈ after, isSeparator char = true) :
    read? limit (value.write layout 0 ++ after) = some value.settled := by
  have stop : continuesNumber (after ++ []) = false := continuesNumber_of_separators blank rfl
  have none_left : tokens? (after ++ []) = tokens? [] := tokens?_separators_append blank
  rw [List.append_nil] at stop none_left
  have cut := tokens?_write separating wellFormed 0 after stop
  have recognised := State.run_tokens (wellFormed.mapNumbers Number.settled) [] []
    (by simpa [Value.depth_mapNumbers] using shallow)
  rw [List.append_nil] at recognised
  simp [Value.settled, read?, cut, none_left, tokens?, recognised, State.deliver, State.run]

/-- A value without doubles is read back unchanged. -/
theorem read?_write_exact {layout : Layout} (separating : layout.Separating) {value : Value}
    (wellFormed : value.WellFormed Number.Exact) {limit : Nat} (shallow : value.depth ≤ limit)
    {after : List Char} (blank : ∀ char ∈ after, isSeparator char = true) :
    read? limit (value.write layout 0 ++ after) = some value := by
  have same : value.settled = value :=
    Value.mapNumbers_eq_self (fun _ exact => exact.settled) wellFormed
  have read := read?_write separating (wellFormed.mono fun _ exact => exact.legible) shallow blank
  rw [same] at read
  exact read

end DiagramGraph.Json
