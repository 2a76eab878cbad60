import UnitCheck.Proofs.Unit.Grammar

/-!
# Spaces and carets in products

`squeeze` drops the white space around carets in one pass from the right. `trimStart_squeeze` says
that this is what joining the pieces between carets amounts to, and `Loosened` is its converse: the
texts that a squeezed text comes from.

`exists_loosened` is the outcome: every text comes from the text with its carets joined, with white
space added around carets and at the ends.
-/

namespace UnitCheck

namespace UnitGrammar

open UnitExpression

/-! ## Squeezing -/

/-- Whether a text ends or goes on with a caret. -/
def atCaret : List Char → Bool
  | [] => true
  | c :: _ => c = '^'

/-- The text without the white space around carets and at its end. -/
def squeeze : List Char → List Char
  | [] => []
  | c :: rest =>
      if c = '^' then '^' :: Text.trimStart (squeeze rest)
      else if Text.isBlank c && atCaret (squeeze rest) then squeeze rest
      else c :: squeeze rest

@[simp] theorem squeeze_nil : squeeze [] = [] := rfl

theorem squeeze_caret (rest : List Char) :
    squeeze ('^' :: rest) = '^' :: Text.trimStart (squeeze rest) := by
  simp [squeeze]

theorem squeeze_cons {c : Char} (other : c ≠ '^') (rest : List Char) :
    squeeze (c :: rest) =
      if Text.isBlank c && atCaret (squeeze rest) then squeeze rest else c :: squeeze rest := by
  simp [squeeze, other]

/-- What precedes a caret, or the end, loses the white space at its end. -/
theorem squeeze_append {before tail : List Char} (clean : '^' ∉ before)
    (edge : atCaret (squeeze tail) = true) :
    squeeze (before ++ tail) = Text.trimEnd before ++ squeeze tail := by
  induction before with
  | nil => rfl
  | cons c before ih =>
      have other : c ≠ '^' := Ne.symm (List.ne_of_not_mem_cons clean)
      have clean : '^' ∉ before := List.not_mem_of_not_mem_cons clean
      have reached : atCaret (Text.trimEnd before ++ squeeze tail) =
          (Text.trimEnd before).isEmpty := by
        cases kept : Text.trimEnd before with
        | nil => exact edge
        | cons d more =>
            have member : d ∈ before :=
              Text.mem_of_mem_trimEnd (kept ▸ List.mem_cons_self)
            have visible : d ≠ '^' := fun same => clean (same ▸ member)
            simp [atCaret, visible]
      rw [List.cons_append, squeeze_cons other, ih clean, reached, Text.trimEnd_cons]
      split
      · rename_i dropped
        have nothing : Text.trimEnd before = [] := by
          simpa using (Bool.and_eq_true_iff.mp dropped).2
        rw [nothing]
      · rfl

theorem squeeze_of_clean {text : List Char} (clean : '^' ∉ text) :
    squeeze text = Text.trimEnd text := by
  have squeezed : squeeze (text ++ []) = Text.trimEnd text ++ squeeze [] :=
    squeeze_append clean rfl
  simpa using squeezed

theorem squeeze_append_caret {before : List Char} (clean : '^' ∉ before) (rest : List Char) :
    squeeze (before ++ '^' :: rest) =
      Text.trimEnd before ++ '^' :: Text.trimStart (squeeze rest) := by
  rw [squeeze_append clean (by rw [squeeze_caret]; rfl), squeeze_caret]

theorem squeeze_of_blank {text : List Char} (blank : Text.Blank text) : squeeze text = [] := by
  rw [squeeze_of_clean (caret_not_mem blank)]
  have reversed : Text.Blank text.reverse := fun c member => blank c (List.mem_reverse.mp member)
  change (Text.trimStart text.reverse).reverse = []
  rw [Text.trimStart_of_blank reversed]
  rfl

theorem squeeze_cons_of_solid {c : Char} (solid : Solid c) (rest : List Char) :
    squeeze (c :: rest) = c :: squeeze rest := by
  rw [squeeze_cons solid.2.1, solid.1]
  rfl

theorem squeeze_append_of_solid {text : List Char} (solid : ∀ c ∈ text, Solid c)
    (rest : List Char) : squeeze (text ++ rest) = text ++ squeeze rest := by
  induction text with
  | nil => rfl
  | cons c text ih =>
      rw [List.cons_append, squeeze_cons_of_solid (solid c List.mem_cons_self),
        ih fun d member => solid d (List.mem_cons_of_mem c member)]
      rfl

theorem trimStart_squeeze_append_of_blank {text : List Char} (blank : Text.Blank text)
    (rest : List Char) :
    Text.trimStart (squeeze (text ++ rest)) = Text.trimStart (squeeze rest) := by
  induction text with
  | nil => rfl
  | cons c text ih =>
      have here : Text.isBlank c = true := blank c List.mem_cons_self
      have other : c ≠ '^' := by
        rintro rfl
        exact absurd here (by decide)
      rw [← ih blank.tail, List.cons_append, squeeze_cons other]
      split
      · rfl
      · exact Text.trimStart_cons_of_blank here

theorem squeeze_append_of_blank (text : List Char) {after : List Char}
    (blank : Text.Blank after) : squeeze (text ++ after) = squeeze text := by
  induction text with
  | nil => exact squeeze_of_blank blank
  | cons c text ih =>
      rw [List.cons_append, squeeze, squeeze, ih]

theorem squeeze_spaces {spaces : List Char} (blank : Text.Blank spaces) {c : Char}
    (solid : Solid c) (rest : List Char) :
    squeeze (spaces ++ c :: rest) = spaces ++ c :: squeeze rest := by
  induction spaces with
  | nil => exact squeeze_cons_of_solid solid rest
  | cons d spaces ih =>
      have other : d ≠ '^' := by
        rintro rfl
        exact absurd (blank '^' List.mem_cons_self) (by decide)
      have inside : atCaret (spaces ++ c :: squeeze rest) = false := by
        cases spaces with
        | nil => simpa [atCaret] using solid.2.1
        | cons e spaces =>
            have visible : e ≠ '^' := by
              rintro rfl
              exact absurd (blank '^' (by simp)) (by decide)
            simpa [atCaret] using visible
      rw [List.cons_append, squeeze_cons other,
        ih blank.tail, inside]
      simp

/-! ## Joining carets -/

theorem joinCarets_of_clean {text : List Char} (clean : '^' ∉ text) :
    joinCarets text = Text.trim text := by
  unfold joinCarets
  rw [List.splitOn_eq_singleton clean]
  simp [List.intercalate]

theorem joinCarets_append_cons {before : List Char} (clean : '^' ∉ before) (rest : List Char) :
    joinCarets (before ++ '^' :: rest) = Text.trim before ++ '^' :: joinCarets rest := by
  unfold joinCarets
  rw [List.splitOn_append_cons_self_of_not_mem clean]
  cases pieces : rest.splitOn '^' with
  | nil => exact absurd pieces (List.splitOn_ne_nil _ _)
  | cons piece pieces => simp [List.intercalate]

theorem trimStart_squeeze (text : List Char) :
    Text.trimStart (squeeze text) = joinCarets text := by
  induction text using Text.cut_induction '^' with
  | clean text absent =>
      rw [squeeze_of_clean absent, joinCarets_of_clean absent, Text.trimStart_trimEnd]
  | cut before after absent ih =>
      rw [squeeze_append_caret absent, joinCarets_append_cons absent,
        Text.trimStart_append_cons _ _ (by decide), Text.trimStart_trimEnd, ih]

/-! ## Loosening -/

/-- The texts that differ from a squeezed one in white space around its carets. -/
inductive Loosened : List Char → List Char → Prop
  | nil : Loosened [] []
  | keep {c : Char} {joined text : List Char} : c ≠ '^' → Loosened joined text →
      Loosened (c :: joined) (c :: text)
  | caret {before after joined text : List Char} : Text.Blank before → Text.Blank after →
      Loosened joined text → Loosened ('^' :: joined) (before ++ '^' :: (after ++ text))

theorem Loosened.of_clean {joined text : List Char} (loosened : Loosened joined text)
    (clean : '^' ∉ joined) : text = joined := by
  induction loosened with
  | nil => rfl
  | keep other loosened ih => rw [ih (List.not_mem_of_not_mem_cons clean)]
  | caret => exact absurd List.mem_cons_self clean

theorem Loosened.split {first second text : List Char} (loosened : Loosened (first ++ second) text) :
    ∃ left right, text = left ++ right ∧ Loosened first left ∧ Loosened second right := by
  induction first generalizing text with
  | nil => exact ⟨[], text, rfl, .nil, loosened⟩
  | cons c first ih =>
      cases loosened with
      | keep other loosened =>
          obtain ⟨left, right, rfl, here, there⟩ := ih loosened
          exact ⟨c :: left, right, rfl, .keep other here, there⟩
      | caret before after loosened =>
          obtain ⟨left, right, rfl, here, there⟩ := ih loosened
          exact ⟨_, right, by simp, .caret before after here, there⟩

theorem Loosened.trimStart {joined text : List Char} (loosened : Loosened joined text) :
    ∃ before rest, Text.Blank before ∧ text = before ++ rest ∧
      Loosened (Text.trimStart joined) rest := by
  induction loosened with
  | nil => exact ⟨[], [], Text.blank_nil, rfl, .nil⟩
  | @keep c joined text other loosened ih =>
      cases blank : Text.isBlank c with
      | true =>
          obtain ⟨before, rest, leading, rfl, trimmed⟩ := ih
          rw [Text.trimStart_cons_of_blank blank]
          exact ⟨c :: before, rest, .cons blank leading, rfl, trimmed⟩
      | false =>
          rw [Text.trimStart_cons_of_not_blank blank]
          exact ⟨[], c :: text, Text.blank_nil, rfl, .keep other loosened⟩
  | caret before after loosened =>
      rw [Text.trimStart_cons_of_not_blank (by decide)]
      exact ⟨[], _, Text.blank_nil, rfl, .caret before after loosened⟩

theorem exists_loosened_squeeze (text : List Char) :
    ∃ rest after, Text.Blank after ∧ text = rest ++ after ∧ Loosened (squeeze text) rest := by
  induction text with
  | nil => exact ⟨[], [], Text.blank_nil, rfl, .nil⟩
  | cons c text ih =>
      obtain ⟨rest, after, trailing, rfl, loosened⟩ := ih
      by_cases caret : c = '^'
      · subst caret
        rw [squeeze_caret]
        obtain ⟨before, core, leading, rfl, trimmed⟩ := loosened.trimStart
        exact ⟨'^' :: (before ++ core), after, trailing, rfl, .caret Text.blank_nil leading trimmed⟩
      · rw [squeeze_cons caret]
        split
        · rename_i dropped
          obtain ⟨blank, edge⟩ := Bool.and_eq_true_iff.mp dropped
          -- White space is dropped at the end of the text or before a caret, which it joins.
          cases squeezed : squeeze (rest ++ after) with
          | nil =>
              rw [squeezed] at loosened
              cases loosened
              exact ⟨[], c :: after, .cons blank trailing, rfl, .nil⟩
          | cons d joined =>
              rw [squeezed] at loosened edge
              obtain rfl : d = '^' := of_decide_eq_true edge
              cases loosened with
              | keep other => exact absurd rfl other
              | @caret before _ _ _ leading gap loosened =>
                  exact ⟨c :: (before ++ '^' :: _), after, trailing, rfl,
                    .caret (.cons blank leading) gap loosened⟩
        · exact ⟨c :: rest, after, trailing, rfl, .keep caret loosened⟩

theorem exists_loosened (text : List Char) :
    ∃ before core after, Text.Blank before ∧ Text.Blank after ∧
      text = before ++ core ++ after ∧ Loosened (joinCarets text) core := by
  obtain ⟨rest, after, trailing, split, loosened⟩ := exists_loosened_squeeze text
  obtain ⟨before, core, leading, rfl, trimmed⟩ := loosened.trimStart
  rw [trimStart_squeeze] at trimmed
  exact ⟨before, core, after, leading, trailing, split, trimmed⟩

end UnitGrammar

end UnitCheck
