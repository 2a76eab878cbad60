import UnitCheck.Json.Render
import UnitCheck.Proofs.Number.Numeral

/-!
# Written values are lines

No character of a written value is a control character: `oneLine_renderChars`. So a value that is
written with a newline after it is exactly one line, whatever strings and names it has.
-/

namespace UnitCheck

/-- No character of the text ends a line, or is a control character of another kind. -/
def OneLine (text : List Char) : Prop := ∀ c ∈ text, 0x20 ≤ c.toNat

@[simp] theorem oneLine_nil : OneLine [] := List.forall_mem_nil _

@[simp] theorem oneLine_cons {c : Char} {text : List Char} :
    OneLine (c :: text) ↔ 0x20 ≤ c.toNat ∧ OneLine text :=
  List.forall_mem_cons

@[simp] theorem oneLine_append {first second : List Char} :
    OneLine (first ++ second) ↔ OneLine first ∧ OneLine second :=
  List.forall_mem_append

/-! ## Numbers -/

@[simp] theorem oneLine_toDigits (n : Nat) : OneLine (Nat.toDigits 10 n) := by
  intro c member
  have digit : c.isDigit = true := Nat.isDigit_of_mem_toDigits (by decide) (by decide) member
  obtain ⟨lower, -⟩ := Char.isDigit_iff_toNat.mp digit
  exact Nat.le_trans (by decide) lower

@[simp] theorem oneLine_repr (z : Int) : OneLine z.repr.toList := by
  rw [← Int.toString_eq_repr, toList_toString_int]
  split <;> simp

@[simp] theorem oneLine_zeros (count : Nat) : OneLine (zeros count).toList := by
  intro c member
  rw [zeros, String.toList_ofList] at member
  rw [List.eq_of_mem_replicate member]
  decide

@[simp] theorem oneLine_pointInside {digits : String} (oneLine : OneLine digits.toList)
    (places : Nat) : OneLine (pointInside digits places).toList := by
  have before : OneLine (digits.toList.take places) := fun c member =>
    oneLine c (List.mem_of_mem_take member)
  have after : OneLine (digits.toList.drop places) := fun c member =>
    oneLine c (List.mem_of_mem_drop member)
  simp [pointInside, before, after]

theorem oneLine_positional (n : Nat) (k : Int) : OneLine (positional n k).toList := by
  simp only [positional]
  split
  · simp
  · split <;> simp

theorem oneLine_scientific (n : Nat) (k : Int) : OneLine (scientific n k).toList := by
  simp only [scientific]
  split <;> simp

theorem oneLine_signText (x : Float) : OneLine (signText x).toList := by
  unfold signText
  split <;> simp

theorem oneLine_jsonNumberText (x : Float) : OneLine (jsonNumberText x).toList := by
  unfold jsonNumberText
  split
  · simp [oneLine_signText]
  · simp only [String.toList_append, oneLine_append]
    refine ⟨oneLine_signText x, ?_⟩
    split
    · exact oneLine_scientific _ _
    · split
      · simp [oneLine_positional]
      · exact oneLine_positional _ _

/-! ## Strings -/

theorem oneLine_digitChar {n : Nat} (digit : n < 16) : 0x20 ≤ n.digitChar.toNat := by
  revert n
  decide

namespace Json

/-- Control characters are escaped. -/
theorem oneLine_escapeChar (c : Char) : OneLine (escapeChar c) := by
  unfold escapeChar
  split
  case h_8 =>
    split
    · rename_i control
      have high := oneLine_digitChar (n := c.toNat / 16) (by omega)
      have low := oneLine_digitChar (n := c.toNat % 16) (by omega)
      simp [high, low]
    · rename_i printable
      simpa using printable
  all_goals simp

theorem oneLine_renderString (text : String) : OneLine (renderString text) := by
  simp only [renderString, List.cons_append, oneLine_cons, oneLine_append]
  refine ⟨by decide, ?_, by decide, oneLine_nil⟩
  intro c member
  obtain ⟨source, -, written⟩ := List.mem_flatMap.mp member
  exact oneLine_escapeChar source c written

/-! ## Values -/

theorem oneLine_renderAtom (value : Atom) : OneLine (renderAtom value) := by
  cases value with
  | null => simp [renderAtom]
  | bool value => cases value <;> simp [renderAtom]
  | int value => simp [renderAtom]
  | float value =>
      rw [renderAtom]
      by_cases finite : value.isFinite = true
      · rw [if_pos finite]
        exact oneLine_jsonNumberText value
      · rw [if_neg finite]
        simp
  | string text => exact oneLine_renderString text

mutual

theorem oneLine_renderChars (json : Json) : OneLine (renderChars json) := by
  cases json with
  | atom value =>
      rw [renderChars]
      exact oneLine_renderAtom value
  | array items =>
      rw [renderChars, oneLine_cons]
      exact ⟨by decide, oneLine_renderItems items⟩
  | object fields =>
      rw [renderChars, oneLine_cons]
      exact ⟨by decide, oneLine_renderFields fields⟩

theorem oneLine_renderItems (items : List Json) : OneLine (renderItems items) := by
  match items with
  | [] => simp [renderItems]
  | [item] => simp [renderItems, oneLine_renderChars item]
  | item :: next :: rest =>
      have others := oneLine_renderItems (next :: rest)
      simp [renderItems, oneLine_renderChars item, others]

theorem oneLine_renderFields (fields : List (String × Json)) : OneLine (renderFields fields) := by
  match fields with
  | [] => simp [renderFields]
  | [(name, value)] =>
      simp [renderFields, oneLine_renderString name, oneLine_renderChars value]
  | (name, value) :: next :: rest =>
      have others := oneLine_renderFields (next :: rest)
      simp [renderFields, oneLine_renderString name, oneLine_renderChars value, others]

end

theorem oneLine_render (json : Json) : OneLine json.render.toList := by
  rw [render, String.toList_ofList]
  exact oneLine_renderChars json

end Json

end UnitCheck
