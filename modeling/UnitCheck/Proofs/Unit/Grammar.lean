import UnitCheck.Proofs.Text.Trim
import UnitCheck.Unit.Expression

/-!
# The grammar of unit expressions

```text
unit     ::= white space | product | product '/' divisor
divisor  ::= product | white space '(' product ')' white space
product  ::= white space item (spaces item)* white space
item     ::= name | name white space '^' white space exponent
exponent ::= digits | '-' digits | '(-' digits ')'
```

A derivation gives the items of a unit in textual order, each a name with its exponent; those right
of `/` have their exponents negated. `Solid` characters are those that names and exponents are made
of.
-/

namespace UnitCheck

namespace UnitGrammar

/-- Digits that write a magnitude of an exponent. -/
structure Digits (text : List Char) (value : Nat) : Prop where
  nonempty : text ≠ []
  digits : ∀ c ∈ text, c.isDigit = true
  value_eq : Nat.ofDigitChars 10 text 0 = value
  positive : 0 < value
  bounded : value ≤ 2147483647

inductive Exponent : List Char → Int → Prop
  | positive {digits : List Char} {n : Nat} : Digits digits n → Exponent digits n
  | negative {digits : List Char} {n : Nat} : Digits digits n → Exponent ('-' :: digits) (-n)
  | parenthesized {digits : List Char} {n : Nat} : Digits digits n →
      Exponent ('(' :: '-' :: (digits ++ [')'])) (-n)

inductive Item : List Char → String × Int → Prop
  | bare {name : List Char} : isName name = true → Item name (String.ofList name, 1)
  | raised {name before after exponent : List Char} {n : Int} : isName name = true →
      Text.Blank before → Text.Blank after → Exponent exponent n →
      Item (name ++ before ++ '^' :: (after ++ exponent)) (String.ofList name, n)

/-- One or more spaces. -/
def Spaces (text : List Char) : Prop :=
  text ≠ [] ∧ ∀ c ∈ text, c = ' '

/-- Texts of items with spaces between them. -/
inductive Separated {β : Type} (item : List Char → β → Prop) : List Char → List β → Prop
  | single {text : List Char} {x : β} : item text x → Separated item text [x]
  | cons {text spaces rest : List Char} {x : β} {xs : List β} : item text x → Spaces spaces →
      Separated item rest xs → Separated item (text ++ spaces ++ rest) (x :: xs)

inductive Product : List Char → List (String × Int) → Prop
  | padded {before core after : List Char} {items : List (String × Int)} :
      Text.Blank before → Separated Item core items → Text.Blank after →
      Product (before ++ core ++ after) items

/-- The items with their exponents negated. -/
def inverted (items : List (String × Int)) : List (String × Int) :=
  items.map fun item => (item.1, -item.2)

/-- What stands right of `/`. -/
inductive Divisor : List Char → List (String × Int) → Prop
  | plain {text : List Char} {items : List (String × Int)} : Product text items → Divisor text items
  | parenthesized {before inside after : List Char} {items : List (String × Int)} :
      Text.Blank before → Product inside items → Text.Blank after →
      Divisor (before ++ '(' :: (inside ++ ')' :: after)) items

/-- The texts of units with their items. -/
inductive Derives : List Char → List (String × Int) → Prop
  | blank {text : List Char} : Text.Blank text → Derives text []
  | product {text : List Char} {items : List (String × Int)} : Product text items →
      Derives text items
  | quotient {left right : List Char} {above below : List (String × Int)} :
      Product left above → Divisor right below →
      Derives (left ++ '/' :: right) (above ++ inverted below)

/-! ## Characters -/

/-- The characters that names and exponents are made of. -/
def Solid (c : Char) : Prop :=
  Text.isBlank c = false ∧ c ≠ '^' ∧ c ≠ '/'

theorem Solid.ne_space {c : Char} (solid : Solid c) : c ≠ ' ' := by
  rintro rfl
  exact absurd solid.1 (by decide)

theorem solid_of_isNameChar {c : Char} (nameChar : isNameChar c = true) : Solid c := by
  refine ⟨not_isBlank_of_isNameChar nameChar, ?_, ?_⟩
  · rintro rfl
    exact absurd nameChar (by decide)
  · rintro rfl
    exact absurd nameChar (by decide)

theorem solid_of_isDigit {c : Char} (digit : c.isDigit = true) : Solid c := by
  have range : 48 ≤ c.toNat ∧ c.toNat ≤ 57 := by
    simpa [Char.isDigit, UInt32.le_iff_toNat_le] using digit
  refine ⟨?_, ?_, ?_⟩
  · simp [Text.isBlank, Text.blankRanges]
    omega
  · rintro rfl
    exact absurd digit (by decide)
  · rintro rfl
    exact absurd digit (by decide)

theorem solid_of_isName {name : List Char} (valid : isName name = true) :
    name ≠ [] ∧ ∀ c ∈ name, Solid c :=
  ⟨(isName_iff.mp valid).1, fun c member => solid_of_isNameChar ((isName_iff.mp valid).2 c member)⟩

theorem Digits.solid {text : List Char} {n : Nat} (digits : Digits text n) :
    text ≠ [] ∧ ∀ c ∈ text, Solid c :=
  ⟨digits.nonempty, fun c member => solid_of_isDigit (digits.digits c member)⟩

theorem Exponent.solid {text : List Char} {n : Int} (exponent : Exponent text n) :
    text ≠ [] ∧ ∀ c ∈ text, Solid c := by
  have minus : Solid '-' := by unfold Solid; decide
  have opening : Solid '(' := by unfold Solid; decide
  have closing : Solid ')' := by unfold Solid; decide
  cases exponent with
  | positive digits => exact digits.solid
  | negative digits =>
      exact ⟨List.cons_ne_nil _ _, List.forall_mem_cons.mpr ⟨minus, digits.solid.2⟩⟩
  | parenthesized digits =>
      refine ⟨List.cons_ne_nil _ _, List.forall_mem_cons.mpr ⟨opening,
        List.forall_mem_cons.mpr ⟨minus, ?_⟩⟩⟩
      intro c member
      rcases List.mem_append.mp member with member | member
      · exact digits.solid.2 c member
      · rw [List.mem_singleton.mp member]
        exact closing

theorem caret_not_mem {text : List Char} (blank : Text.Blank text) : '^' ∉ text :=
  blank.not_mem rfl

theorem slash_not_mem {text : List Char} (blank : Text.Blank text) : '/' ∉ text :=
  blank.not_mem rfl

/-! ## Derived texts -/

theorem blank_of_spaces {text : List Char} (only : ∀ c ∈ text, c = ' ') : Text.Blank text := by
  intro c member
  rw [only c member]
  decide

theorem Item.exists_cons {text : List Char} {item : String × Int} (derived : Item text item) :
    ∃ c rest, text = c :: rest ∧ isNameChar c = true := by
  have start : ∀ name : List Char, isName name = true → ∀ tail,
      ∃ c rest, name ++ tail = c :: rest ∧ isNameChar c = true := by
    intro name valid tail
    obtain ⟨nonempty, nameChars⟩ := isName_iff.mp valid
    cases name with
    | nil => exact absurd rfl nonempty
    | cons c name => exact ⟨c, name ++ tail, rfl, nameChars c List.mem_cons_self⟩
  cases derived with
  | bare valid => simpa using start text valid []
  | @raised name before after exponent n valid =>
      rw [List.append_assoc]
      exact start name valid _

theorem Separated.exists_cons {text : List Char} {items : List (String × Int)}
    (separated : Separated Item text items) :
    ∃ c rest, text = c :: rest ∧ isNameChar c = true := by
  cases separated with
  | single derived => exact derived.exists_cons
  | cons derived spaced more =>
      obtain ⟨c, rest, rfl, nameChar⟩ := derived.exists_cons
      exact ⟨c, _, rfl, nameChar⟩

/-- What holds of every item holds of the items of a product. -/
theorem Product.forall_items {property : String × Int → Prop}
    (each : ∀ text item, Item text item → property item) {text : List Char}
    {items : List (String × Int)} (product : Product text items) :
    ∀ item ∈ items, property item := by
  cases product with
  | padded _ separated _ =>
      induction separated with
      | single derived => exact List.forall_mem_singleton.mpr (each _ _ derived)
      | cons derived _ _ ih => exact List.forall_mem_cons.mpr ⟨each _ _ derived, ih⟩

theorem Divisor.forall_items {property : String × Int → Prop}
    (each : ∀ text item, Item text item → property item) {text : List Char}
    {items : List (String × Int)} (divisor : Divisor text items) :
    ∀ item ∈ items, property item := by
  cases divisor with
  | plain product => exact product.forall_items each
  | parenthesized _ product _ => exact product.forall_items each

/-- The characters that products are made of. -/
def isProductChar (c : Char) : Bool :=
  isNameChar c || c.isDigit || Text.isBlank c || ['^', '-', '(', ')'].contains c

theorem isProductChar_of_isName {name : List Char} (valid : isName name = true) :
    ∀ c ∈ name, isProductChar c = true := by
  intro c member
  simp [isProductChar, (isName_iff.mp valid).2 c member]

theorem isProductChar_of_blank {text : List Char} (blank : Text.Blank text) :
    ∀ c ∈ text, isProductChar c = true := by
  intro c member
  simp [isProductChar, blank c member]

theorem Digits.isProductChar {text : List Char} {n : Nat} (digits : Digits text n) :
    ∀ c ∈ text, UnitGrammar.isProductChar c = true := by
  intro c member
  simp [UnitGrammar.isProductChar, digits.digits c member]

theorem Exponent.isProductChar {text : List Char} {n : Int} (exponent : Exponent text n) :
    ∀ c ∈ text, UnitGrammar.isProductChar c = true := by
  have minus : UnitGrammar.isProductChar '-' = true := by decide
  have opening : UnitGrammar.isProductChar '(' = true := by decide
  have closing : UnitGrammar.isProductChar ')' = true := by decide
  cases exponent with
  | positive digits => exact digits.isProductChar
  | negative digits => exact List.forall_mem_cons.mpr ⟨minus, digits.isProductChar⟩
  | parenthesized digits =>
      exact List.forall_mem_cons.mpr ⟨opening, List.forall_mem_cons.mpr ⟨minus,
        List.forall_mem_append.mpr ⟨digits.isProductChar, List.forall_mem_singleton.mpr closing⟩⟩⟩

theorem Item.isProductChar {text : List Char} {item : String × Int} (derived : Item text item) :
    ∀ c ∈ text, UnitGrammar.isProductChar c = true := by
  have caret : UnitGrammar.isProductChar '^' = true := by decide
  cases derived with
  | bare valid => exact isProductChar_of_isName valid
  | raised valid before after exponent =>
      simp only [List.forall_mem_append, List.forall_mem_cons]
      exact ⟨⟨isProductChar_of_isName valid, isProductChar_of_blank before⟩, caret,
        isProductChar_of_blank after, exponent.isProductChar⟩

theorem Product.isProductChar {text : List Char} {items : List (String × Int)}
    (product : Product text items) : ∀ c ∈ text, UnitGrammar.isProductChar c = true := by
  have inside : ∀ {core items}, Separated Item core items →
      ∀ c ∈ core, UnitGrammar.isProductChar c = true := by
    intro core items separated
    induction separated with
    | single derived => exact derived.isProductChar
    | cons derived spaced more ih =>
        simp only [List.forall_mem_append]
        exact ⟨⟨derived.isProductChar, isProductChar_of_blank (blank_of_spaces spaced.2)⟩, ih⟩
  cases product with
  | padded before separated after =>
      simp only [List.forall_mem_append]
      exact ⟨⟨isProductChar_of_blank before, inside separated⟩, isProductChar_of_blank after⟩

/-- Neither the sign of a quotient nor that of a list of targets can stand in a product. -/
theorem Product.not_mem {text : List Char} {items : List (String × Int)}
    (product : Product text items) {c : Char} (foreign : UnitGrammar.isProductChar c = false) :
    c ∉ text := by
  intro member
  rw [product.isProductChar c member] at foreign
  cases foreign

theorem Product.slashless {text : List Char} {items : List (String × Int)}
    (product : Product text items) : '/' ∉ text :=
  product.not_mem (by decide)

theorem Product.unparenthesize? {text : List Char} {items : List (String × Int)}
    (product : Product text items) : Text.unparenthesize? text = none := by
  refine Option.eq_none_iff_forall_ne_some.mpr fun inside wrapped => ?_
  rw [Text.unparenthesize?_eq_some_iff] at wrapped
  subst wrapped
  generalize wrapped : '(' :: (inside ++ [')']) = text at product
  cases product with
  | @padded before core after _ leading separated trailing =>
      obtain ⟨c, rest, rfl, nameChar⟩ := separated.exists_cons
      cases before with
      | nil =>
          obtain ⟨rfl, -⟩ := List.cons.inj wrapped
          exact absurd nameChar (by decide)
      | cons b before =>
          obtain ⟨rfl, -⟩ := List.cons.inj wrapped
          exact absurd (leading '(' List.mem_cons_self) (by decide)

end UnitGrammar

end UnitCheck
