import DiagramGraph.Proofs.Shape.Store
import DiagramGraph.Proofs.Storage.Folder

/-!
# What a shape store answers after a run

Names that differ only in case are one name. After a run of insertions a request
is answered by the text that was stored last under its name, and each name that
was stored under is listed once, in a form under which it can be requested again.
What is no name stores nothing, and insertions under different names can change
places.
-/

namespace DiagramGraph.Shape

open DiagramGraph.Storage DiagramGraph.Text

/-! ## Names -/

/-- Whether a text can be the name of a shape: it has at least one character, and
no others than ASCII letters, ASCII digits and underscores. -/
def IsName (text : String) : Prop :=
  text ≠ "" ∧ ∀ char ∈ text.toList, isAsciiWord char = true

/-- Whether two texts differ at most in the case of ASCII letters. -/
def SameName (first second : String) : Prop :=
  asciiLower first.toList = asciiLower second.toList

theorem SameName.symm {first second : String} (same : SameName first second) :
    SameName second first :=
  Eq.symm same

theorem SameName.trans {first second third : String} (front : SameName first second)
    (back : SameName second third) : SameName first third :=
  Eq.trans front back

theorem isName_iff {text : String} :
    IsName text ↔ text.toList ≠ [] ∧ text.toList.all isAsciiWord = true := by
  rw [IsName, List.all_eq_true, Ne, Ne, String.toList_eq_nil_iff]

/-- Names are the texts that have a key, which is the name in lower case. -/
theorem key?_eq_some_iff_isName {name key : String} :
    key? name = some key ↔ IsName name ∧ String.ofList (asciiLower name.toList) = key := by
  rw [key?_eq_some_iff, isName_iff, and_assoc]

theorem IsName.exists_key? {name : String} (named : IsName name) : ∃ key, key? name = some key :=
  ⟨_, key?_eq_some_iff_isName.2 ⟨named, rfl⟩⟩

theorem key?_of_not_isName {name : String} (unnamed : ¬ IsName name) : key? name = none := by
  rw [Option.eq_none_iff_forall_ne_some]
  intro key found
  exact unnamed (key?_eq_some_iff_isName.1 found).1

/-- Outside ASCII nothing is folded, so folding neither makes nor removes word
characters. -/
theorem isAsciiWord_toLower (char : Char) : isAsciiWord char.toLower = isAsciiWord char := by
  by_cases ascii : char.toNat < 0x80
  · exact (caseLaws ascii).lower_word
  · have unfolded : char.toLower = char := by
      apply dif_neg
      rintro ⟨-, most⟩
      have bound : char.toNat ≤ 90 := UInt32.le_iff_toNat_le.1 most
      omega
    rw [unfolded]

/-- A text that differs from a name only in case is a name. -/
theorem SameName.isName {first second : String} (same : SameName first second)
    (named : IsName first) : IsName second := by
  have folded (text : String) :
      text.toList.all isAsciiWord = (asciiLower text.toList).all isAsciiWord := by
    rw [asciiLower, List.all_map]
    exact congrArg text.toList.all (funext fun char => (isAsciiWord_toLower char).symm)
  rw [isName_iff, folded] at named ⊢
  rw [← same]
  constructor
  · intro empty
    rw [SameName, empty] at same
    exact named.1 (List.map_eq_nil_iff.1 same)
  · exact named.2

/-- What shares its key with a name is that name in some case. -/
theorem key?_eq_some_iff_sameName {name query key : String} (named : key? query = some key) :
    key? name = some key ↔ IsName name ∧ SameName name query := by
  rcases key?_eq_some_iff_isName.1 named with ⟨-, rfl⟩
  rw [key?_eq_some_iff_isName, SameName, String.ofList_inj]

theorem SameName.key?_eq {first second : String} (same : SameName first second)
    (named : IsName first) : key? first = key? second := by
  rcases (same.isName named).exists_key? with ⟨key, found⟩
  rw [found]
  exact (key?_eq_some_iff_sameName found).2 ⟨named, same⟩

/-! ## Requests -/

/-- Whether a text is the last one that a run of insertions stores under a name in
any case. -/
def StoresLast (inserts : List (String × String)) (name text : String) : Prop :=
  ∃ before stored after, inserts = before ++ (stored, text) :: after ∧ IsName stored ∧
    SameName stored name ∧
      ∀ insertion ∈ after, IsName insertion.1 → ¬ SameName insertion.1 name

/-- Whether a run of insertions stores no text under a name in any case. -/
def NeverStores (inserts : List (String × String)) (name : String) : Prop :=
  ∀ insertion ∈ inserts, IsName insertion.1 → ¬ SameName insertion.1 name

theorem lastText?_eq_some_iff {inserts : List (String × String)} {key text : String} :
    lastText? inserts key = some text ↔
      ∃ before stored after, inserts = before ++ (stored, text) :: after ∧
        key? stored = some key ∧ ∀ insertion ∈ after, key? insertion.1 ≠ some key := by
  rw [lastText?, Option.map_eq_some_iff]
  simp only [List.find?_eq_some_iff_append, beq_iff_eq, Bool.not_eq_true', beq_eq_false_iff_ne]
  constructor
  · rintro ⟨⟨stored, text⟩, ⟨found, after, before, split, later⟩, rfl⟩
    refine ⟨before.reverse, stored, after.reverse, ?_, found, ?_⟩
    · rw [← List.reverse_inj, split]
      simp
    · intro insertion member
      exact later insertion (List.mem_reverse.1 member)
  · rintro ⟨before, stored, after, rfl, found, later⟩
    refine ⟨(stored, text), ⟨found, after.reverse, before.reverse, by simp, ?_⟩, rfl⟩
    intro insertion member
    exact later insertion (List.mem_reverse.1 member)

/-- The last text under the key of a name is the last one under the name. -/
theorem lastText?_eq_some_iff_storesLast {inserts : List (String × String)}
    {name key text : String} (named : key? name = some key) :
    lastText? inserts key = some text ↔ StoresLast inserts name text := by
  rw [lastText?_eq_some_iff]
  simp only [StoresLast, Ne, key?_eq_some_iff_sameName named, not_and, and_assoc]

theorem not_isStored_iff_neverStores {inserts : List (String × String)} {name key : String}
    (named : key? name = some key) : ¬ IsStored inserts key ↔ NeverStores inserts name := by
  rw [isStored_iff, NeverStores]
  simp only [key?_eq_some_iff_sameName named, not_exists, not_and]

/-- Nothing is stored under what is no name. -/
theorem neverStores_of_not_isName {name : String} (unnamed : ¬ IsName name)
    (inserts : List (String × String)) : NeverStores inserts name :=
  fun _ _ stored same => unnamed (same.isName stored)

section Last

variable {inserts : List (String × String)} {name text : String}
  (last : StoresLast inserts name text)

include last

/-- A text that was stored last was stored. -/
theorem StoresLast.not_neverStores : ¬ NeverStores inserts name := by
  rcases last with ⟨before, stored, after, rfl, named, same, -⟩
  intro never
  exact never (stored, text) (by simp) named same

/-- Only one text was stored last. -/
theorem StoresLast.eq {other : String} (otherLast : StoresLast inserts name other) :
    text = other := by
  rcases id last with ⟨_, stored, _, -, named, same, -⟩
  rcases (same.isName named).exists_key? with ⟨key, keyed⟩
  rw [← lastText?_eq_some_iff_storesLast keyed] at last otherLast
  exact Option.some.inj (last.symm.trans otherLast)

/-- The case of a name does not count. -/
theorem StoresLast.of_sameName {other : String} (same : SameName other name) :
    StoresLast inserts other text := by
  rcases last with ⟨before, stored, after, split, named, storedSame, later⟩
  refine ⟨before, stored, after, split, named, storedSame.trans same.symm, ?_⟩
  intro insertion member insertionNamed insertionSame
  exact later insertion member insertionNamed (insertionSame.trans same)

end Last

namespace Store

/-- A request is answered by the text stored last, or else its name is reported as
it was given. -/
theorem get_cases (inserts : List (String × String)) (name : String) :
    (∃ text, StoresLast inserts name text ∧ (ofInserts inserts).get name = .ok text) ∨
      (NeverStores inserts name ∧ (ofInserts inserts).get name = .error (.notFound name)) := by
  rw [get_ofInserts]
  by_cases named : IsName name
  · rcases named.exists_key? with ⟨key, found⟩
    rw [found, Option.bind_some]
    cases stored : lastText? inserts key with
    | some text =>
        exact .inl ⟨text, (lastText?_eq_some_iff_storesLast found).1 stored, rfl⟩
    | none =>
        right
        constructor
        · rw [← not_isStored_iff_neverStores found, IsStored, stored]
          rintro ⟨text, impossible⟩
          contradiction
        · rfl
  · rw [key?_of_not_isName named]
    exact .inr ⟨neverStores_of_not_isName named inserts, rfl⟩

theorem get_eq_ok_iff_storesLast {inserts : List (String × String)} {name text : String} :
    (ofInserts inserts).get name = .ok text ↔ StoresLast inserts name text := by
  rcases get_cases inserts name with ⟨found, last, answer⟩ | ⟨never, answer⟩
  · rw [answer, Except.ok.injEq]
    constructor
    · rintro rfl
      exact last
    · intro other
      exact last.eq other
  · rw [answer]
    constructor
    · intro impossible
      contradiction
    · intro last
      exact absurd never last.not_neverStores

theorem get_eq_error_iff_neverStores {inserts : List (String × String)} {name : String}
    {reason : Missing} :
    (ofInserts inserts).get name = .error reason ↔
      reason = .notFound name ∧ NeverStores inserts name := by
  rcases get_cases inserts name with ⟨text, last, answer⟩ | ⟨never, answer⟩
  · rw [answer]
    constructor
    · intro impossible
      contradiction
    · rintro ⟨-, never⟩
      exact absurd never last.not_neverStores
  · rw [answer, Except.error.injEq]
    constructor
    · rintro rfl
      exact ⟨rfl, never⟩
    · rintro ⟨rfl, -⟩
      rfl

/-! ## The list -/

/-- The list shows the keys under which a text was stored. -/
theorem mem_names_iff {inserts : List (String × String)} {shown : String} :
    shown ∈ (ofInserts inserts).names ↔
      ∃ key, IsStored inserts key ∧ displayName key = shown := by
  have keys : (ofInserts inserts).names =
      ((ofInserts inserts).entries.map Prod.fst).map displayName := by
    rw [names, List.map_map]
    rfl
  rw [keys, List.mem_map]
  simp only [mem_keys_ofInserts]

/-- A key is shown as one of its names. -/
theorem key?_shown {inserts : List (String × String)} {key : String}
    (stored : IsStored inserts key) : key? (displayName key) = some key := by
  have keyed := key?_of_isStored stored
  rw [key?_displayName (isAscii_of_key? keyed), keyed]

theorem nodup_names (inserts : List (String × String)) : (ofInserts inserts).names.Nodup := by
  rw [names, List.Nodup, List.pairwise_map]
  have apart := List.pairwise_map.1 (nodup_keys (ofInserts inserts))
  apply apart.imp_of_mem
  intro first second firstMember secondMember different same
  have keyed {entry : String × String} (member : entry ∈ (ofInserts inserts).entries) :
      key? entry.1 = some entry.1 :=
    key?_of_isStored (mem_keys_ofInserts.1 (List.mem_map_of_mem member))
  exact different (displayName_inj (keyed firstMember) (keyed secondMember) same)

/-- A name that was stored under is listed in one of its cases. -/
theorem exists_shown {inserts : List (String × String)} {insertion : String × String}
    (member : insertion ∈ inserts) (named : IsName insertion.1) :
    ∃ shown ∈ (ofInserts inserts).names, SameName shown insertion.1 := by
  rcases named.exists_key? with ⟨key, keyed⟩
  have stored : IsStored inserts key := isStored_iff.2 ⟨insertion, member, keyed⟩
  exact ⟨displayName key, mem_names_iff.2 ⟨key, stored, rfl⟩,
    ((key?_eq_some_iff_sameName keyed).1 (key?_shown stored)).2⟩

/-- No name is listed in two cases. -/
theorem shown_inj {inserts : List (String × String)} {first second : String}
    (firstMember : first ∈ (ofInserts inserts).names)
    (secondMember : second ∈ (ofInserts inserts).names) (same : SameName first second) :
    first = second := by
  rcases mem_names_iff.1 firstMember with ⟨firstKey, firstStored, rfl⟩
  rcases mem_names_iff.1 secondMember with ⟨secondKey, secondStored, rfl⟩
  have firstKeyed := key?_shown firstStored
  have keys : key? (displayName firstKey) = key? (displayName secondKey) :=
    same.key?_eq (key?_eq_some_iff_isName.1 firstKeyed).1
  rw [firstKeyed, key?_shown secondStored] at keys
  exact congrArg displayName (Option.some.inj keys)

/-- What is listed was stored. -/
theorem not_neverStores_of_mem_names {inserts : List (String × String)} {shown : String}
    (member : shown ∈ (ofInserts inserts).names) : ¬ NeverStores inserts shown := by
  rcases mem_names_iff.1 member with ⟨key, stored, rfl⟩
  rw [← not_isStored_iff_neverStores (key?_shown stored), not_not]
  exact stored

/-! ## Insertions -/

/-- What is no name stores nothing. -/
theorem insert_of_not_isName {name : String} (unnamed : ¬ IsName name) (store : Store)
    (text : String) : store.insert name text = store := by
  rw [insert, key?_of_not_isName unnamed]

/-- Stores in which the same is found are the same. -/
theorem eq_of_lookup_eq {first second : Store}
    (same : ∀ key, first.entries.lookup key = second.entries.lookup key) : first = second := by
  have perm : first.entries.Perm second.entries := by
    rw [List.perm_ext_iff_of_nodup (nodup_keys first).of_map (nodup_keys second).of_map]
    rintro ⟨key, text⟩
    rw [← lookup_eq_some_iff_mem (nodup_keys first), ← lookup_eq_some_iff_mem (nodup_keys second),
      same]
  have entries : first.entries = second.entries :=
    perm.eq_of_pairwise (fun _ _ _ _ before behind => absurd behind (String.lt_asymm before))
      first.ordered second.ordered
  rcases first with ⟨entries, ordered⟩
  subst entries
  rfl

/-- Insertions under different names can change places. -/
theorem insert_comm {first second : String} (apart : ¬ SameName first second) (store : Store)
    (firstText secondText : String) :
    (store.insert first firstText).insert second secondText =
      (store.insert second secondText).insert first firstText := by
  apply eq_of_lookup_eq
  intro key
  rw [lookup_insert, lookup_insert, lookup_insert, lookup_insert]
  by_cases firstKeyed : key? first = some key
  · have secondKeyed : key? second ≠ some key := by
      intro keyed
      exact apart ((key?_eq_some_iff_sameName keyed).1 firstKeyed).2
    rw [if_neg secondKeyed, if_pos firstKeyed, if_pos firstKeyed]
  · rw [if_neg firstKeyed, if_neg firstKeyed]

/-! ## The main statement -/

/-- What a store has to answer after a run of insertions. -/
structure Records (store : Store) (inserts : List (String × String)) : Prop where
  found : ∀ name text, store.get name = .ok text ↔ StoresLast inserts name text
  missing : ∀ name reason,
    store.get name = .error reason ↔ reason = .notFound name ∧ NeverStores inserts name
  distinct : store.names.Nodup
  listed : ∀ insertion ∈ inserts, IsName insertion.1 →
    ∃! shown, shown ∈ store.names ∧ SameName shown insertion.1
  stored : ∀ shown ∈ store.names,
    ∃ insertion ∈ inserts, IsName insertion.1 ∧ SameName insertion.1 shown
  fetched : ∀ shown ∈ store.names,
    ∃ text, StoresLast inserts shown text ∧
      ∀ name, SameName name shown → store.get name = .ok text

theorem records_ofInserts (inserts : List (String × String)) :
    (ofInserts inserts).Records inserts where
  found _ _ := get_eq_ok_iff_storesLast
  missing _ _ := get_eq_error_iff_neverStores
  distinct := nodup_names inserts
  listed insertion member named := by
    rcases exists_shown member named with ⟨shown, listed, same⟩
    refine ⟨shown, ⟨listed, same⟩, ?_⟩
    rintro other ⟨otherListed, otherSame⟩
    exact shown_inj otherListed listed (otherSame.trans same.symm)
  stored shown member := by
    by_contra none
    apply not_neverStores_of_mem_names member
    intro insertion inside named same
    exact none ⟨insertion, inside, named, same⟩
  fetched shown member := by
    rcases get_cases inserts shown with ⟨text, last, -⟩ | ⟨never, -⟩
    · refine ⟨text, last, ?_⟩
      intro name same
      exact get_eq_ok_iff_storesLast.2 (last.of_sameName same)
    · exact absurd never (not_neverStores_of_mem_names member)

/-- A store that was filled by a run of insertions answers as the run says. What
is no name leaves any store as it is, and insertions under different names give the
same store in either order. -/
theorem runs_are_recorded (inserts : List (String × String)) :
    (ofInserts inserts).Records inserts ∧
      (∀ (store : Store) (name text : String), ¬ IsName name → store.insert name text = store) ∧
      ∀ (store : Store) (first second firstText secondText : String), ¬ SameName first second →
        (store.insert first firstText).insert second secondText =
          (store.insert second secondText).insert first firstText :=
  ⟨records_ofInserts inserts, fun store _ text unnamed => insert_of_not_isName unnamed store text,
    fun store _ _ firstText secondText apart => insert_comm apart store firstText secondText⟩

/-- A shape that is replaced under its name in another case, one that is not, and a
text that is no name. -/
def mixedInserts : List (String × String) :=
  [("Class", "old"), ("../erd", "stray"), ("ERD", "entities"), ("cLASS", "new")]

theorem mixedInserts_recorded :
    ¬ IsName "../erd" ∧ ¬ SameName "ERD" "cLASS" ∧ IsName "Class" ∧
      (ofInserts mixedInserts).get "CLASS" = .ok "new" ∧
      (ofInserts mixedInserts).get "../erd" = .error (.notFound "../erd") ∧
      (∃! shown, shown ∈ (ofInserts mixedInserts).names ∧ SameName shown "Class") ∧
      (ofInserts [("Class", "old")]).insert "../erd" "stray" = ofInserts [("Class", "old")] ∧
      ((ofInserts [("Class", "old")]).insert "ERD" "entities").insert "cLASS" "new" =
        ((ofInserts [("Class", "old")]).insert "cLASS" "new").insert "ERD" "entities" := by
  rcases runs_are_recorded mixedInserts with ⟨recorded, ignored, commuted⟩
  have unnamed : ¬ IsName "../erd" := by
    rw [isName_iff]
    decide
  have apart : ¬ SameName "ERD" "cLASS" := by
    rw [SameName]
    decide
  have named : IsName "Class" := by
    rw [isName_iff]
    decide
  have last : StoresLast mixedInserts "CLASS" "new" := by
    refine ⟨mixedInserts.take 3, "cLASS", [], rfl, ?_, ?_, List.forall_mem_nil _⟩
    · rw [isName_iff]
      decide
    · rw [SameName]
      decide
  have never : NeverStores mixedInserts "../erd" := neverStores_of_not_isName unnamed mixedInserts
  refine ⟨unnamed, apart, named, (recorded.found "CLASS" "new").2 last,
    (recorded.missing "../erd" _).2 ⟨rfl, never⟩, ?_, ignored _ "../erd" "stray" unnamed,
    commuted _ "ERD" "cLASS" "entities" "new" apart⟩
  exact recorded.listed ("Class", "old") List.mem_cons_self named

end Store

end DiagramGraph.Shape
