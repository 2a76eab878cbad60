import UnitCheck.Json.Document
import UnitCheck.Proofs.Json.Text

/-!
# Written values are read back

A written value is read as its own document: `Document.read?_render`. Values whose leaves are all
`Exact` are considered, which leaves out numbers that are rounded when they are read.

Reading may stop between two tokens, and `resume?` goes on from there. `Reads` says of one value
that it is read in any surroundings, which is what an array needs of its items and an object of its
fields.
-/

namespace UnitCheck

/-- The leaves that reading gives back. -/
def Atom.Exact : Atom → Prop
  | .int value => Int64.minValue.toInt ≤ value ∧ value < UInt64.size
  | .float _ => False
  | _ => True

/-- All leaves of the value are given back by reading. -/
inductive Json.Exact : Json → Prop
  | atom {value : Atom} : value.Exact → Exact (.atom value)
  | array {items : List Json} : (∀ item ∈ items, Exact item) → Exact (.array items)
  | object {fields : List (String × Json)} : (∀ field ∈ fields, Exact field.2) →
      Exact (.object fields)

namespace Token

/-- The token that a leaf is written as. -/
def ofAtom : Atom → Token
  | .string value => text (some value)
  | value => scalar (some value)

theorem lexAll?_of_lex? {c : Char} {rest after : List Char} {token : Token}
    (first : lex? (c :: rest) = some (token, after)) (visible : isSpace c = false) :
    lexAll? (c :: rest) = (lexAll? after).map (token :: ·) := by
  rw [lexAll?, visible, if_neg Bool.false_ne_true]
  split
  · rename_i none
    rw [first] at none
    cases none
  · rename_i other found
    rw [first] at found
    cases found
    rfl

theorem lexAll?_renderString (value : String) (rest : List Char) :
    lexAll? (Json.renderString value ++ rest) = (lexAll? rest).map (text (some value) :: ·) := by
  obtain ⟨units, read, decoded⟩ := StringUnit.lex?_escaped value.toList rest
  have written : Json.renderString value ++ rest =
      '"' :: (value.toList.flatMap Json.escapeChar ++ '"' :: rest) := by
    simp [Json.renderString]
  rw [written]
  refine lexAll?_of_lex? ?_ rfl
  rw [lex?, read]
  simp [decoded, String.ofList_toList]

theorem lex?_of_numeral {c : Char} (start : c.isDigit = true ∨ c = '-') (rest : List Char) :
    lex? (c :: rest) =
      (Numeral.lex? (c :: rest)).map fun (numeral, rest) => (scalar numeral.value?, rest) := by
  unfold lex?
  split
  case h_11 => rfl
  all_goals
    rename_i same
    rw [(List.cons.inj same).1] at start
    exact absurd start (by decide)

theorem lexAll?_toString {z : Int} (lower : Int64.minValue.toInt ≤ z) (upper : z < UInt64.size)
    {rest : List Char} (ends : Numeral.Ends rest) :
    lexAll? ((toString z).toList ++ rest) = (lexAll? rest).map (scalar (some (.int z)) :: ·) := by
  obtain ⟨c, more, text, start⟩ : ∃ c more, (toString z).toList ++ rest = c :: more ∧
      (c.isDigit = true ∨ c = '-') := by
    obtain ⟨c, digits, first, digit, -⟩ := Numeral.exists_toDigits_eq_cons z.natAbs
    rw [toList_toString_int, first]
    split
    · exact ⟨_, _, rfl, Or.inr rfl⟩
    · exact ⟨_, _, rfl, Or.inl digit⟩
  have numeral := Numeral.lex?_toString z ends
  rw [text] at numeral ⊢
  refine lexAll?_of_lex? ?_ ?_
  · rw [lex?_of_numeral start, numeral]
    simp [Numeral.value?_ofInt lower upper]
  · rw [Bool.eq_false_iff]
    intro space
    simp only [isSpace, Bool.or_eq_true, decide_eq_true_eq] at space
    rcases space with ((rfl | rfl) | rfl) | rfl <;> exact absurd start (by decide)

theorem lexAll?_renderAtom {value : Atom} (exact : value.Exact) {rest : List Char}
    (ends : Numeral.Ends rest) :
    lexAll? (Json.renderAtom value ++ rest) = (lexAll? rest).map (ofAtom value :: ·) := by
  cases value with
  | null => exact lexAll?_of_lex? rfl rfl
  | bool value => cases value <;> exact lexAll?_of_lex? rfl rfl
  | int value => exact lexAll?_toString exact.1 exact.2 ends
  | float value => exact exact.elim
  | string value => exact lexAll?_renderString value rest

end Token

mutual

/-- The document that a value is read as. -/
def Json.toDocument : Json → Document
  | .atom value => .atom (some value)
  | .array items => .array (itemDocuments items)
  | .object fields => .object (fieldDocuments fields)

def Json.itemDocuments : List Json → List Document
  | [] => []
  | item :: rest => item.toDocument :: itemDocuments rest

def Json.fieldDocuments : List (String × Json) → List (Option String × Document)
  | [] => []
  | (name, value) :: rest => (some name, value.toDocument) :: fieldDocuments rest

end

theorem Json.toDocument_array (items : List Json) :
    (Json.array items).toDocument = .array (items.map toDocument) := by
  have each : itemDocuments items = items.map toDocument := by
    induction items with
    | nil => rfl
    | cons item rest ih => rw [itemDocuments, ih, List.map_cons]
  rw [toDocument, each]

theorem Json.toDocument_object (fields : List (String × Json)) :
    (Json.object fields).toDocument =
      .object (fields.map fun field => (some field.1, field.2.toDocument)) := by
  have each : fieldDocuments fields =
      fields.map fun field => (some field.1, field.2.toDocument) := by
    induction fields with
    | nil => rfl
    | cons field rest ih => rw [fieldDocuments, ih, List.map_cons]
  rw [toDocument, each]

namespace Document

/-! ## Reading on -/

/-- What is reached when reading goes on from a state with the given text. -/
def resume? (state : State) (characters : List Char) : Option State :=
  (Token.lexAll? characters).bind fun tokens => tokens.foldlM step state

theorem resume?_of_lexAll? {characters after : List Char} {token : Token}
    (first : Token.lexAll? characters = (Token.lexAll? after).map (token :: ·)) (state : State) :
    resume? state characters = (step state token).bind fun next => resume? next after := by
  unfold resume?
  rw [first]
  cases Token.lexAll? after with
  | none => cases step state token <;> rfl
  | some tokens => rfl

theorem resume?_of_lex? {c : Char} {rest after : List Char} {token : Token}
    (first : Token.lex? (c :: rest) = some (token, after)) (visible : Token.isSpace c = false)
    (state : State) :
    resume? state (c :: rest) = (step state token).bind fun next => resume? next after :=
  resume?_of_lexAll? (Token.lexAll?_of_lex? first visible) state

/-- A value may come next, and goes to the given stack. -/
inductive Awaits : State → List Context → Prop
  | value {stack : List Context} : Awaits (.value stack) stack
  | firstItem {stack : List Context} : Awaits (.firstItem stack) (.array [] :: stack)

/-- A field may come next, after the given ones. -/
inductive AwaitsField : State → List (Option String × Document) → List Context → Prop
  | first {stack : List Context} : AwaitsField (.firstField stack) [] stack
  | later {fields : List (Option String × Document)} {stack : List Context} :
      AwaitsField (.field fields stack) fields stack

theorem Awaits.step_eq {state : State} {stack : List Context} (awaits : Awaits state stack)
    {token : Token} (opening : token ≠ .closeArray) : step state token = start stack token := by
  cases awaits with
  | value => cases token <;> rfl
  | firstItem => cases token <;> first | rfl | exact absurd rfl opening

theorem AwaitsField.step_eq {state : State} {fields : List (Option String × Document)}
    {stack : List Context} (awaits : AwaitsField state fields stack) (name : Option String) :
    step state (.text name) = some (.colon fields name stack) := by
  cases awaits <;> rfl

/-- In any surroundings the value is read as its document. -/
def Reads (json : Json) : Prop :=
  ∀ {state : State} {stack : List Context} {rest : List Char}, Awaits state stack →
    Numeral.Ends rest →
    resume? state (json.renderChars ++ rest) = resume? (deliver json.toDocument stack) rest

theorem ends_of_punctuation {c : Char} (punctuation : c = ',' ∨ c = ']' ∨ c = '\x7d')
    (rest : List Char) : Numeral.Ends (c :: rest) := by
  rintro _ ⟨⟩
  rcases punctuation with rfl | rfl | rfl <;> decide

theorem reads_atom {value : Atom} (exact : value.Exact) : Reads (.atom value) := by
  intro state stack rest awaits ends
  have opening : Token.ofAtom value ≠ .closeArray := by cases value <;> exact Token.noConfusion
  rw [Json.renderChars, resume?_of_lexAll? (Token.lexAll?_renderAtom exact ends),
    awaits.step_eq opening]
  cases value <;> rfl

theorem resume?_renderItems {items : List Json} (inhabited : items ≠ [])
    (each : ∀ item ∈ items, Reads item) {state : State} {done : List Document}
    {stack : List Context} (awaits : Awaits state (.array done :: stack)) (rest : List Char) :
    resume? state (Json.renderItems items ++ rest) =
      resume? (deliver (.array (done.reverse ++ items.map Json.toDocument)) stack) rest := by
  -- `done` are the items before these, from the last to the first.
  induction items generalizing state done with
  | nil => exact absurd rfl inhabited
  | cons item more ih =>
      obtain ⟨here, others⟩ := List.forall_mem_cons.mp each
      cases more with
      | nil =>
          have closing := ends_of_punctuation (Or.inr (Or.inl rfl)) rest
          rw [Json.renderItems, List.append_assoc, List.singleton_append, here awaits closing,
            resume?_of_lex? rfl rfl]
          simp [deliver, step]
      | cons next more =>
          have comma := ends_of_punctuation (Or.inl rfl) (Json.renderItems (next :: more) ++ rest)
          rw [Json.renderItems.eq_3 item _ (List.cons_ne_nil _ _), List.append_assoc,
            List.cons_append, here awaits comma, resume?_of_lex? rfl rfl]
          change resume? (.value (.array (item.toDocument :: done) :: stack))
            (Json.renderItems (next :: more) ++ rest) = _
          rw [ih (List.cons_ne_nil _ _) others .value]
          simp

/-- The name and the colon of a field lead to its value. -/
theorem resume?_fieldName {state : State} {done : List (Option String × Document)}
    {stack : List Context} (awaits : AwaitsField state done stack) (name : String)
    (rest : List Char) :
    resume? state (Json.renderString name ++ ':' :: rest) =
      resume? (.value (.object done (some name) :: stack)) rest := by
  rw [resume?_of_lexAll? (Token.lexAll?_renderString name _), awaits.step_eq, Option.bind_some,
    resume?_of_lex? rfl rfl]
  rfl

theorem resume?_renderFields {fields : List (String × Json)} (inhabited : fields ≠ [])
    (each : ∀ field ∈ fields, Reads field.2) {state : State}
    {done : List (Option String × Document)} {stack : List Context}
    (awaits : AwaitsField state done stack) (rest : List Char) :
    resume? state (Json.renderFields fields ++ rest) =
      resume? (deliver (.object (done.reverse ++
        fields.map fun field => (some field.1, field.2.toDocument))) stack) rest := by
  induction fields generalizing state done with
  | nil => exact absurd rfl inhabited
  | cons field more ih =>
      obtain ⟨name, value⟩ := field
      obtain ⟨here, others⟩ := List.forall_mem_cons.mp each
      cases more with
      | nil =>
          have closing := ends_of_punctuation (Or.inr (Or.inr rfl)) rest
          have text : Json.renderFields [(name, value)] ++ rest =
              Json.renderString name ++ ':' :: (value.renderChars ++ '\x7d' :: rest) := by
            simp [Json.renderFields]
          rw [text, resume?_fieldName awaits, here .value closing, resume?_of_lex? rfl rfl]
          simp [deliver, step]
      | cons next more =>
          have comma := ends_of_punctuation (Or.inl rfl) (Json.renderFields (next :: more) ++ rest)
          have text : Json.renderFields ((name, value) :: next :: more) ++ rest =
              Json.renderString name ++ ':' ::
                (value.renderChars ++ ',' :: (Json.renderFields (next :: more) ++ rest)) := by
            rw [Json.renderFields.eq_3 name value _ (List.cons_ne_nil _ _)]
            simp
          rw [text, resume?_fieldName awaits, here .value comma, resume?_of_lex? rfl rfl]
          change resume? (.field ((some name, value.toDocument) :: done) stack)
            (Json.renderFields (next :: more) ++ rest) = _
          rw [ih (List.cons_ne_nil _ _) others .later]
          simp

/-! ## Whole values -/

theorem reads_array {items : List Json} (each : ∀ item ∈ items, Reads item) :
    Reads (.array items) := by
  intro state stack rest awaits _
  rw [Json.renderChars, List.cons_append, resume?_of_lex? rfl rfl,
    awaits.step_eq Token.noConfusion, start, Option.bind_some, Json.toDocument_array]
  cases items with
  | nil =>
      rw [Json.renderItems, List.singleton_append, resume?_of_lex? rfl rfl]
      rfl
  | cons item more => exact resume?_renderItems (List.cons_ne_nil _ _) each .firstItem rest

theorem reads_object {fields : List (String × Json)} (each : ∀ field ∈ fields, Reads field.2) :
    Reads (.object fields) := by
  intro state stack rest awaits _
  rw [Json.renderChars, List.cons_append, resume?_of_lex? rfl rfl,
    awaits.step_eq Token.noConfusion, start, Option.bind_some, Json.toDocument_object]
  cases fields with
  | nil =>
      rw [Json.renderFields, List.singleton_append, resume?_of_lex? rfl rfl]
      rfl
  | cons field more => exact resume?_renderFields (List.cons_ne_nil _ _) each .first rest

theorem reads_of_exact {json : Json} (exact : json.Exact) : Reads json := by
  induction exact with
  | atom leaf => exact reads_atom leaf
  | array _ ih => exact reads_array ih
  | object _ ih => exact reads_object ih

/-- A written value is read as its own document. -/
theorem read?_render {json : Json} (exact : json.Exact) :
    read? json.render = some json.toDocument := by
  have ends : Numeral.Ends [] := by
    rintro _ ⟨⟩
  have finished : resume? (.done json.toDocument) [] = some (.done json.toDocument) := by
    rw [resume?, Token.lexAll?]
    rfl
  have read : resume? (.value []) (json.renderChars ++ []) = resume? (.done json.toDocument) [] :=
    reads_of_exact exact .value ends
  rw [List.append_nil, finished, resume?, Option.bind_eq_some_iff] at read
  obtain ⟨tokens, lexed, folded⟩ := read
  rw [read?, Json.render, String.toList_ofList, lexed, Option.bind_some, ofTokens?, folded]

end Document

end UnitCheck
