import Mathlib.Data.List.Nodup
import UnitCheck.Proofs.Unit.Reading

/-!
# Parsing is the grammar

* `foldlM_push_eq_ok_iff` : adding powers one by one gives all of them, if no unit repeats.
* `parseProduct_eq_ok_iff`, `product_denominator_iff` : products and what stands right of `/`.
* `parseUnit_eq_ok_iff` : a text is parsed exactly when the grammar derives it, with the derived
  items.
-/

namespace UnitCheck

namespace UnitGrammar

open UnitExpression

/-! ## Adding powers one by one -/

theorem nodup_units_append_iff {v : UnitVector} {power : UnitPower} :
    (UnitVector.mk (v.powers ++ [power])).units.Nodup ↔
      v.units.Nodup ∧ power.unit ∉ v.units := by
  have units : (UnitVector.mk (v.powers ++ [power])).units = v.units.concat power.unit := by
    simp [UnitVector.units]
  rw [units, List.nodup_concat, and_comm]

section
variable {β : Type} {step : UnitVector → β → Except UnitError UnitVector}
  {reads : β → UnitPower → Prop}

theorem foldlM_push_eq_ok_iff
    (pushes : ∀ v x w, step v x = .ok w ↔ ∃ power, reads x power ∧ v.push? power = some w)
    {xs : List β} {v w : UnitVector} (distinct : v.units.Nodup) :
    xs.foldlM step v = .ok w ↔
      ∃ powers, List.Forall₂ reads xs powers ∧ w = ⟨v.powers ++ powers⟩ ∧ w.units.Nodup := by
  induction xs generalizing v with
  | nil =>
      constructor
      · intro folded
        cases folded
        exact ⟨[], .nil, by simp, distinct⟩
      · rintro ⟨powers, read, rfl, -⟩
        cases read
        simp
        rfl
  | cons x xs ih =>
      rw [List.foldlM_cons]
      constructor
      · intro folded
        cases pushed : step v x with
        | error cause =>
            rw [pushed] at folded
            cases folded
        | ok larger =>
            rw [pushed] at folded
            obtain ⟨power, here, extended⟩ := (pushes v x larger).mp pushed
            obtain ⟨fresh, rfl⟩ := UnitVector.push?_eq_some_iff.mp extended
            obtain ⟨powers, read, rfl, distinctAll⟩ :=
              (ih (nodup_units_append_iff.mpr ⟨distinct, fresh⟩)).mp folded
            exact ⟨power :: powers, .cons here read, by simp, distinctAll⟩
      · rintro ⟨powers, read, rfl, distinctAll⟩
        cases read with
        | @cons _ power _ powers here read =>
            have distinctFirst : (UnitVector.mk (v.powers ++ [power])).units.Nodup := by
              refine List.Nodup.sublist ?_ distinctAll
              simp [UnitVector.units]
            have pushed : step v x = .ok ⟨v.powers ++ [power]⟩ :=
              (pushes _ _ _).mpr ⟨power, here, UnitVector.push?_eq_some_iff.mpr
                ⟨(nodup_units_append_iff.mp distinctFirst).2, rfl⟩⟩
            rw [pushed]
            exact (ih distinctFirst).mpr ⟨powers, read, by simp, distinctAll⟩

end

theorem addToken_eq_ok_iff (v : UnitVector) (token : List Char) (w : UnitVector) :
    addToken v token = .ok w ↔
      ∃ power, readToken token = .ok power ∧ v.push? power = some w := by
  unfold addToken
  cases readToken token with
  | error cause => simp [bind, Except.bind]
  | ok power => cases pushed : v.push? power <;> simp [bind, Except.bind, pushed]

theorem divideBy_eq_ok_iff (v : UnitVector) (power : UnitPower) (w : UnitVector) :
    divideBy v power = .ok w ↔
      ∃ inverse, { power with exponent := -power.exponent } = inverse ∧
        v.push? inverse = some w := by
  unfold divideBy
  cases pushed : v.push? { power with exponent := -power.exponent } <;> simp [pushed]

/-! ## Products -/

theorem parseProduct_eq_ok_iff {text : List Char} {v : UnitVector} :
    parseProduct text = .ok v ↔ List.Forall₂ Tight (tokens text) v.items ∧ v.units.Nodup := by
  unfold parseProduct
  rw [foldlM_push_eq_ok_iff addToken_eq_ok_iff (v := .empty) List.nodup_nil]
  have read : ∀ powers : List UnitPower,
      List.Forall₂ (fun token power => readToken token = .ok power) (tokens text) powers ↔
        List.Forall₂ Tight (tokens text) (powers.map UnitPower.item) := by
    intro powers
    rw [List.forall₂_map_right_iff]
    simp only [readToken_eq_ok_iff]
  constructor
  · rintro ⟨powers, all, rfl, distinct⟩
    exact ⟨(read powers).mp all, distinct⟩
  · rintro ⟨all, distinct⟩
    exact ⟨v.powers, (read v.powers).mpr all, rfl, distinct⟩

theorem parseSide_eq_ok_iff {text : List Char} {v : UnitVector} :
    (parseSide text = .ok v ∧ v.isEmpty = false) ↔ Product text v.items ∧ v.units.Nodup := by
  have nonempty : v.isEmpty = false ↔ v.items ≠ [] := by
    simp [UnitVector.isEmpty, UnitVector.items]
  rw [product_iff, nonempty]
  unfold parseSide
  constructor
  · rintro ⟨read, some⟩
    split at read
    · cases read
    · obtain ⟨all, distinct⟩ := parseProduct_eq_ok_iff.mp read
      exact ⟨⟨some, all⟩, distinct⟩
  · rintro ⟨⟨some, all⟩, distinct⟩
    have clean := (product_iff.mpr ⟨some, all⟩).slashless
    rw [if_neg (by simpa using clean)]
    exact ⟨parseProduct_eq_ok_iff.mpr ⟨all, distinct⟩, some⟩

/-! ## Quotients -/

theorem product_of_padded {before after core : List Char} {items : List (String × Int)}
    (leading : Text.Blank before) (trailing : Text.Blank after) :
    Product (before ++ core ++ after) items ↔ Product core items := by
  rw [product_iff, product_iff, tokens_of_padded leading trailing]

theorem denominator_eq (text : List Char) :
    denominator text = (Text.unparenthesize? (Text.trim text)).getD (Text.trim text) := rfl

theorem product_denominator_iff {text : List Char} {items : List (String × Int)} :
    Product (denominator text) items ↔ Divisor text items := by
  rw [denominator_eq]
  obtain ⟨before, after, leading, trailing, padded⟩ := Text.exists_trim text
  constructor
  · intro product
    cases bare : Text.unparenthesize? (Text.trim text) with
    | none =>
        rw [bare] at product
        rw [padded]
        exact .plain ((product_of_padded leading trailing).mpr product)
    | some inside =>
        rw [bare] at product
        rw [Text.unparenthesize?_eq_some_iff] at bare
        have whole : text = before ++ '(' :: (inside ++ ')' :: after) := by
          rw [padded, bare]
          simp
        rw [whole]
        exact .parenthesized leading product trailing
  · intro divisor
    cases divisor with
    | plain product =>
        rw [padded, product_of_padded leading trailing] at product
        rw [product.unparenthesize?]
        exact product
    | parenthesized opening product closing =>
        rw [Text.trim_enclosed opening (by decide) (by decide) closing,
          Text.unparenthesize?_eq_some_iff.mpr rfl]
        exact product

theorem foldlM_divideBy_eq_ok_iff {quotient divisor v : UnitVector}
    (distinct : quotient.units.Nodup) :
    divisor.powers.foldlM divideBy quotient = .ok v ↔
      v = ⟨quotient.powers ++ divisor.inverse.powers⟩ ∧ v.units.Nodup := by
  rw [foldlM_push_eq_ok_iff divideBy_eq_ok_iff distinct]
  have negated : ∀ powers, List.Forall₂
      (fun (power inverse : UnitPower) => { power with exponent := -power.exponent } = inverse)
        divisor.powers powers ↔ divisor.inverse.powers = powers := by
    intro powers
    unfold UnitVector.inverse
    rw [← List.forall₂_eq_eq_eq, List.forall₂_map_left_iff]
  simp only [negated, exists_eq_left']

/-- The steps of a quotient, without the early exit for texts that no product has. -/
theorem parseQuotient_eq {left right : List Char} (someLeft : left ≠ []) (someRight : right ≠ []) :
    parseQuotient left right =
      (parseSide left).bind fun quotient =>
        (parseSide (denominator right)).bind fun divisor =>
          if quotient.isEmpty || divisor.isEmpty then .error .misplacedDivisor
          else divisor.powers.foldlM divideBy quotient := by
  unfold parseQuotient
  have some : (left.isEmpty || right.isEmpty) = false := by
    simpa using ⟨someLeft, someRight⟩
  simp only [some]
  rfl

theorem Product.ne_nil {text : List Char} {items : List (String × Int)}
    (product : Product text items) : text ≠ [] := by
  rintro rfl
  obtain ⟨nonempty, all⟩ := product_iff.mp product
  cases all
  exact nonempty rfl

theorem Divisor.ne_nil {text : List Char} {items : List (String × Int)}
    (divisor : Divisor text items) : text ≠ [] := by
  cases divisor with
  | plain product => exact product.ne_nil
  | parenthesized => simp

theorem parseQuotient_eq_ok_iff {left right : List Char} {v : UnitVector} :
    parseQuotient left right = .ok v ↔ ∃ quotient divisor : UnitVector,
      (Product left quotient.items ∧ quotient.units.Nodup) ∧
      (Divisor right divisor.items ∧ divisor.units.Nodup) ∧
      v = ⟨quotient.powers ++ divisor.inverse.powers⟩ ∧ v.units.Nodup := by
  constructor
  · intro read
    have someLeft : left ≠ [] := by
      rintro rfl
      cases read
    have someRight : right ≠ [] := by
      rintro rfl
      simp [parseQuotient] at read
      cases read
    rw [parseQuotient_eq someLeft someRight] at read
    cases readLeft : parseSide left with
    | error cause =>
        rw [readLeft] at read
        cases read
    | ok quotient =>
        cases readRight : parseSide (denominator right) with
        | error cause =>
            rw [readLeft, readRight] at read
            cases read
        | ok divisor =>
            rw [readLeft, readRight] at read
            simp only [Except.bind] at read
            split at read
            · cases read
            · rename_i some
              simp only [Bool.or_eq_true, not_or, Bool.not_eq_true] at some
              have above := parseSide_eq_ok_iff.mp ⟨readLeft, some.1⟩
              have below := parseSide_eq_ok_iff.mp ⟨readRight, some.2⟩
              rw [product_denominator_iff] at below
              exact ⟨quotient, divisor, above, below,
                (foldlM_divideBy_eq_ok_iff above.2).mp read⟩
  · rintro ⟨quotient, divisor, above, below, whole⟩
    have someLeft := above.1.ne_nil
    have someRight := below.1.ne_nil
    rw [← product_denominator_iff] at below
    obtain ⟨readLeft, quotientFull⟩ := parseSide_eq_ok_iff.mpr above
    obtain ⟨readRight, divisorFull⟩ := parseSide_eq_ok_iff.mpr below
    rw [parseQuotient_eq someLeft someRight, readLeft, readRight]
    simp only [Except.bind, quotientFull, divisorFull]
    exact (foldlM_divideBy_eq_ok_iff above.2).mpr whole

theorem units_append_inverse (quotient divisor : UnitVector) :
    (UnitVector.mk (quotient.powers ++ divisor.inverse.powers)).units =
      quotient.units ++ divisor.units := by
  simp [UnitVector.units, UnitVector.inverse]

theorem items_eq_iff {v quotient divisor : UnitVector} (bounded : Bounded divisor.items) :
    v.items = quotient.items ++ inverted divisor.items ↔
      v = ⟨quotient.powers ++ divisor.inverse.powers⟩ := by
  rw [← items_inverse bounded]
  constructor
  · intro items
    have powers : v.powers = quotient.powers ++ divisor.inverse.powers :=
      List.map_injective_iff.mpr UnitPower.item_injective (items.trans List.map_append.symm)
    rw [← powers]
  · rintro rfl
    exact List.map_append

theorem parseQuotient_eq_ok_iff_items {left right : List Char} {v : UnitVector} :
    parseQuotient left right = .ok v ↔ ∃ above below, Product left above ∧ Divisor right below ∧
      v.items = above ++ inverted below ∧ v.units.Nodup := by
  rw [parseQuotient_eq_ok_iff]
  constructor
  · rintro ⟨quotient, divisor, ⟨above, -⟩, ⟨below, -⟩, whole, distinct⟩
    exact ⟨_, _, above, below, (items_eq_iff below.bounded).mpr whole, distinct⟩
  · rintro ⟨_, _, above, below, items, distinct⟩
    obtain ⟨quotient, rfl⟩ := exists_vector above.bounded
    obtain ⟨divisor, rfl⟩ := exists_vector below.bounded
    rw [items_eq_iff below.bounded] at items
    have apart := distinct
    rw [items, units_append_inverse] at apart
    obtain ⟨distinctAbove, distinctBelow, -⟩ := List.nodup_append.mp apart
    exact ⟨quotient, divisor, ⟨above, distinctAbove⟩, ⟨below, distinctBelow⟩, items, distinct⟩

/-! ## Unit expressions -/

theorem parse_eq_ok_iff {text : List Char} {v : UnitVector} :
    parse text = .ok v ↔ Derives text v.items ∧ v.units.Nodup := by
  unfold parse
  constructor
  · intro read
    by_cases member : '/' ∈ text
    · obtain ⟨left, right, rfl, absent⟩ := List.eq_append_cons_of_mem member
      rw [Text.cutAt?_first absent] at read
      obtain ⟨above, below, product, divisor, items, distinct⟩ :=
        parseQuotient_eq_ok_iff_items.mp read
      rw [items]
      exact ⟨.quotient product divisor, distinct⟩
    · rw [Text.cutAt?_of_not_mem member] at read
      obtain ⟨all, distinct⟩ := parseProduct_eq_ok_iff.mp read
      refine ⟨?_, distinct⟩
      by_cases none : v.items = []
      · rw [none] at all ⊢
        exact .blank (tokens_eq_nil_iff.mp (List.forall₂_nil_right_iff.mp all))
      · exact .product (product_iff.mpr ⟨none, all⟩)
  · rintro ⟨derived, distinct⟩
    generalize same : v.items = items at derived
    cases derived with
    | blank blank =>
        rw [Text.cutAt?_of_not_mem (slash_not_mem blank)]
        rw [← tokens_eq_nil_iff] at blank
        refine parseProduct_eq_ok_iff.mpr ⟨?_, distinct⟩
        rw [blank, same]
        exact .nil
    | product product =>
        rw [Text.cutAt?_of_not_mem product.slashless]
        rw [← same] at product
        exact parseProduct_eq_ok_iff.mpr ⟨(product_iff.mp product).2, distinct⟩
    | quotient product divisor =>
        rw [Text.cutAt?_first product.slashless]
        exact parseQuotient_eq_ok_iff_items.mpr ⟨_, _, product, divisor, same, distinct⟩

end UnitGrammar

/-- A text stands for a vector exactly when the grammar derives it with the items of the vector, and
no unit repeats. -/
theorem parseUnit_eq_ok_iff (text : String) (v : UnitVector) :
    parseUnit text = .ok v ↔ UnitGrammar.Derives text.toList v.items ∧ v.units.Nodup :=
  UnitGrammar.parse_eq_ok_iff

end UnitCheck
