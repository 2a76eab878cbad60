import Mathlib.Data.List.Forall2
import UnitCheck.Proofs.Unit.Spacing

/-!
# Tokens of products

`product_iff` says that a text is a product exactly when its tokens are, in order, its items without
the white space inside them. One direction squeezes a derived text, the other loosens the tokens.
-/

namespace UnitCheck

namespace UnitGrammar

open UnitExpression

/-! ## Pieces between spaces -/

/-- The nonempty pieces between spaces. -/
def pieces (text : List Char) : List (List Char) :=
  (text.splitOn ' ').filter fun piece => !piece.isEmpty

theorem tokens_eq (text : List Char) : tokens text = pieces (joinCarets text) := rfl

theorem pieces_space (rest : List Char) : pieces (' ' :: rest) = pieces rest := by
  unfold pieces
  rw [← List.nil_append (' ' :: rest), List.splitOn_append_cons_self_of_not_mem List.not_mem_nil]
  rfl

theorem pieces_append_space {piece : List Char} (clean : ' ' ∉ piece) (rest : List Char) :
    pieces (piece ++ ' ' :: rest) =
      if piece.isEmpty then pieces rest else piece :: pieces rest := by
  unfold pieces
  rw [List.splitOn_append_cons_self_of_not_mem clean, List.filter_cons]
  cases piece <;> rfl

theorem pieces_of_clean {piece : List Char} (clean : ' ' ∉ piece) :
    pieces piece = if piece.isEmpty then [] else [piece] := by
  unfold pieces
  rw [List.splitOn_eq_singleton clean]
  cases piece <;> rfl

theorem pieces_spaces_append {spaces : List Char} (only : ∀ c ∈ spaces, c = ' ')
    (rest : List Char) : pieces (spaces ++ rest) = pieces rest := by
  induction spaces with
  | nil => rfl
  | cons c spaces ih =>
      obtain ⟨rfl, others⟩ := List.forall_mem_cons.mp only
      rw [List.cons_append, pieces_space, ih others]

section
variable {β : Type} {item : List Char → β → Prop}

theorem Separated.pieces (words : ∀ text x, item text x → text ≠ [] ∧ ' ' ∉ text)
    {text : List Char} {xs : List β} (separated : Separated item text xs) :
    List.Forall₂ item (UnitGrammar.pieces text) xs := by
  induction separated with
  | @single text x valid =>
      obtain ⟨nonempty, clean⟩ := words text x valid
      rw [pieces_of_clean clean, if_neg (by simpa using nonempty)]
      exact .cons valid .nil
  | @cons text spaces rest x xs valid spaced _ ih =>
      obtain ⟨nonempty, clean⟩ := words text x valid
      obtain ⟨some, only⟩ := spaced
      cases spaces with
      | nil => exact absurd rfl some
      | cons c spaces =>
          obtain ⟨rfl, others⟩ := List.forall_mem_cons.mp only
          rw [List.append_assoc, List.cons_append, pieces_append_space clean,
            if_neg (by simpa using nonempty), pieces_spaces_append others]
          exact .cons valid ih

/-- A text is its pieces with spaces around and between them. -/
theorem exists_separated (text : List Char) {xs : List β}
    (read : List.Forall₂ item (pieces text) xs) :
    (xs = [] ∧ ∀ c ∈ text, c = ' ') ∨ ∃ before core after, (∀ c ∈ before, c = ' ') ∧
      (∀ c ∈ after, c = ' ') ∧ text = before ++ core ++ after ∧ Separated item core xs := by
  have nothing : ∀ c ∈ ([] : List Char), c = ' ' := by simp
  induction text using Text.cut_induction ' ' generalizing xs with
  | clean text absent =>
      rw [pieces_of_clean absent] at read
      cases text with
      | nil =>
          cases read
          exact Or.inl ⟨rfl, nothing⟩
      | cons c text =>
          cases read with
          | cons valid more =>
              cases more
              exact Or.inr ⟨[], c :: text, [], nothing, nothing, by simp, .single valid⟩
  | cut piece rest absent ih =>
      rw [pieces_append_space absent] at read
      cases piece with
      | nil =>
          rcases ih read with
            ⟨rfl, only⟩ | ⟨before, core, after, leading, trailing, rfl, separated⟩
          · exact Or.inl ⟨rfl, List.forall_mem_cons.mpr ⟨rfl, only⟩⟩
          · exact Or.inr ⟨' ' :: before, core, after, List.forall_mem_cons.mpr ⟨rfl, leading⟩,
              trailing, rfl, separated⟩
      | cons d piece =>
          cases read with
          | cons valid more =>
              rcases ih more with
                ⟨rfl, only⟩ | ⟨before, core, after, leading, trailing, rfl, separated⟩
              · exact Or.inr ⟨[], d :: piece, ' ' :: rest, nothing,
                  List.forall_mem_cons.mpr ⟨rfl, only⟩, rfl, .single valid⟩
              · have spaced : Spaces (' ' :: before) :=
                  ⟨List.cons_ne_nil _ _, List.forall_mem_cons.mpr ⟨rfl, leading⟩⟩
                exact Or.inr ⟨[], d :: piece ++ ' ' :: before ++ core, after, nothing, trailing,
                  by simp, .cons valid spaced separated⟩

theorem Separated.ne_nil {text : List Char} {xs : List β} (separated : Separated item text xs) :
    xs ≠ [] := by
  cases separated <;> exact List.cons_ne_nil _ _

end

/-! ## Items without white space -/

/-- The texts of items without white space inside. -/
inductive Tight : List Char → String × Int → Prop
  | bare {name : List Char} : isName name = true → Tight name (String.ofList name, 1)
  | raised {name exponent : List Char} {n : Int} : isName name = true → Exponent exponent n →
      Tight (name ++ '^' :: exponent) (String.ofList name, n)

theorem Tight.visible {token : List Char} {item : String × Int} (tight : Tight token item) :
    token ≠ [] ∧ ' ' ∉ token := by
  cases tight with
  | bare valid =>
      obtain ⟨nonempty, solid⟩ := solid_of_isName valid
      exact ⟨nonempty, fun member => (solid ' ' member).ne_space rfl⟩
  | raised valid exponent =>
      have solidName := (solid_of_isName valid).2
      have solidExponent := exponent.solid.2
      refine ⟨by simp, fun member => ?_⟩
      rcases List.mem_append.mp member with member | member
      · exact (solidName ' ' member).ne_space rfl
      · rcases List.mem_cons.mp member with same | member
        · exact absurd same (by decide)
        · exact (solidExponent ' ' member).ne_space rfl

/-! ## From derivations to tokens -/

theorem Item.squeeze {text : List Char} {item : String × Int} (derived : Item text item) :
    ∃ token, Tight token item ∧
      ∀ tail, UnitGrammar.squeeze (text ++ tail) = token ++ UnitGrammar.squeeze tail := by
  cases derived with
  | bare valid =>
      exact ⟨text, .bare valid, squeeze_append_of_solid (solid_of_isName valid).2⟩
  | @raised name before after exponent n valid leading gap exponentValid =>
      refine ⟨name ++ '^' :: exponent, .raised valid exponentValid, fun tail => ?_⟩
      obtain ⟨nonempty, solid⟩ := exponentValid.solid
      have kept : Text.trimStart (UnitGrammar.squeeze (after ++ (exponent ++ tail))) =
          exponent ++ UnitGrammar.squeeze tail := by
        rw [trimStart_squeeze_append_of_blank gap, squeeze_append_of_solid solid]
        cases exponent with
        | nil => exact absurd rfl nonempty
        | cons c exponent =>
            exact Text.trimStart_cons_of_not_blank (solid c List.mem_cons_self).1
      have blank : Text.trimEnd before = [] := by
        rw [← squeeze_of_clean (caret_not_mem leading), squeeze_of_blank leading]
      calc UnitGrammar.squeeze (name ++ before ++ '^' :: (after ++ exponent) ++ tail)
          = UnitGrammar.squeeze (name ++ (before ++ '^' :: (after ++ (exponent ++ tail)))) := by simp
        _ = name ++ '^' :: (exponent ++ UnitGrammar.squeeze tail) := by
            rw [squeeze_append_of_solid (solid_of_isName valid).2,
              squeeze_append_caret (caret_not_mem leading), kept, blank, List.nil_append]
        _ = name ++ '^' :: exponent ++ UnitGrammar.squeeze tail := by simp

theorem Separated.squeeze {text : List Char} {items : List (String × Int)}
    (separated : Separated Item text items) :
    Separated Tight (UnitGrammar.squeeze text) items := by
  induction separated with
  | @single text item derived =>
      obtain ⟨token, tight, squeezed⟩ := derived.squeeze
      rw [← List.append_nil text, squeezed, squeeze_nil, List.append_nil]
      exact .single tight
  | cons derived spaced more ih =>
      obtain ⟨token, tight, squeezed⟩ := derived.squeeze
      obtain ⟨c, rest, rfl, nameChar⟩ := more.exists_cons
      have solid := solid_of_isNameChar nameChar
      rw [List.append_assoc, squeezed, squeeze_spaces (blank_of_spaces spaced.2) solid,
        ← squeeze_cons_of_solid solid, ← List.append_assoc]
      exact .cons tight spaced ih

/-! ## From tokens to derivations -/

theorem Tight.loosen {token text : List Char} {item : String × Int} (tight : Tight token item)
    (loosened : Loosened token text) : Item text item := by
  have noCaret : ∀ run : List Char, (∀ c ∈ run, Solid c) → '^' ∉ run :=
    fun run solid member => (solid '^' member).2.1 rfl
  cases tight with
  | bare valid =>
      rw [loosened.of_clean (noCaret _ (solid_of_isName valid).2)]
      exact .bare valid
  | raised valid exponent =>
      obtain ⟨left, right, rfl, here, there⟩ := loosened.split
      rw [here.of_clean (noCaret _ (solid_of_isName valid).2)]
      cases there with
      | keep other => exact absurd rfl other
      | caret before after inside =>
          rw [inside.of_clean (noCaret _ exponent.solid.2), ← List.append_assoc]
          exact .raised valid before after exponent

theorem Separated.loosen {joined text : List Char} {items : List (String × Int)}
    (separated : Separated Tight joined items) (loosened : Loosened joined text) :
    Separated Item text items := by
  induction separated generalizing text with
  | single tight => exact .single (tight.loosen loosened)
  | cons tight spaced more ih =>
      obtain ⟨first, rest, rfl, loosenedFirst, loosenedRest⟩ := loosened.split
      obtain ⟨left, spaces, rfl, here, there⟩ := loosenedFirst.split
      have kept := there.of_clean (caret_not_mem (blank_of_spaces spaced.2))
      rw [kept]
      exact .cons (tight.loosen here) spaced (ih loosenedRest)

/-! ## Products -/

theorem tokens_eq_nil_iff {text : List Char} : tokens text = [] ↔ Text.Blank text := by
  constructor
  · intro none
    obtain ⟨before, core, after, leading, trailing, rfl, loosened⟩ := exists_loosened text
    have read : List.Forall₂ (fun (_ : List Char) (_ : Unit) => True)
        (pieces (joinCarets (before ++ core ++ after))) [] := by
      rw [← tokens_eq, none]
      exact .nil
    rcases exists_separated _ read with ⟨-, only⟩ | ⟨_, _, _, -, -, -, separated⟩
    · have blank := blank_of_spaces only
      rw [← loosened.of_clean (caret_not_mem blank)] at blank
      exact (leading.append blank).append trailing
    · exact absurd rfl separated.ne_nil
  · intro blank
    rw [tokens_eq, joinCarets_of_clean (caret_not_mem blank), Text.trim_of_blank blank]
    rfl

theorem tokens_of_padded {before after : List Char} (leading : Text.Blank before)
    (trailing : Text.Blank after) (core : List Char) :
    tokens (before ++ core ++ after) = tokens core := by
  rw [tokens_eq, tokens_eq, ← trimStart_squeeze, ← trimStart_squeeze,
    squeeze_append_of_blank _ trailing, trimStart_squeeze_append_of_blank leading]

theorem product_iff {text : List Char} {items : List (String × Int)} :
    Product text items ↔ items ≠ [] ∧ List.Forall₂ Tight (tokens text) items := by
  constructor
  · rintro ⟨leading, separated, trailing⟩
    refine ⟨separated.ne_nil, ?_⟩
    have squeezed := separated.squeeze
    obtain ⟨c, rest, rfl, nameChar⟩ := separated.exists_cons
    have solid := solid_of_isNameChar nameChar
    rw [tokens_of_padded leading trailing, tokens_eq, ← trimStart_squeeze,
      squeeze_cons_of_solid solid, Text.trimStart_cons_of_not_blank solid.1,
      ← squeeze_cons_of_solid solid]
    exact squeezed.pieces fun _ _ tight => tight.visible
  · rintro ⟨nonempty, read⟩
    obtain ⟨before, core, after, leading, trailing, rfl, loosened⟩ := exists_loosened text
    rw [tokens_eq] at read
    rcases exists_separated _ read with
      ⟨rfl, -⟩ | ⟨first, middle, last, onlyFirst, onlyLast, joined, separated⟩
    · exact absurd rfl nonempty
    · rw [joined] at loosened
      obtain ⟨front, back, rfl, loosenedFront, loosenedBack⟩ := loosened.split
      obtain ⟨left, inner, rfl, loosenedLeft, loosenedInner⟩ := loosenedFront.split
      have blankFirst := blank_of_spaces onlyFirst
      have blankLast := blank_of_spaces onlyLast
      rw [loosenedLeft.of_clean (caret_not_mem blankFirst),
        loosenedBack.of_clean (caret_not_mem blankLast)]
      have derived := Product.padded (leading.append blankFirst) (separated.loosen loosenedInner)
        (blankLast.append trailing)
      simpa using derived

end UnitGrammar

end UnitCheck
