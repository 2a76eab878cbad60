import UnitCheck.Text.Blank

/-!
# Names of base units

A name is a nonempty run of characters none of which is white space or one of the symbols that the
unit, target and rule notations use themselves. There is no list of known units: every such text
names a unit.
-/

namespace UnitCheck

/-- The symbols that no unit name holds. -/
def excludedSymbols : String := "][)(\x7d\x7b><0123456789.,:;`~!@#^&*\\/?|_=+ -"

/-- The characters that a unit name is made of. -/
def isNameChar (c : Char) : Bool :=
  !Text.isBlank c && !excludedSymbols.toList.contains c

/-- A list of characters that spells a unit name. -/
def isName (name : List Char) : Bool :=
  !name.isEmpty && name.all isNameChar

/-- A string that is a unit name. -/
def isUnitName (name : String) : Bool :=
  isName name.toList

theorem isName_iff {name : List Char} :
    isName name = true ↔ name ≠ [] ∧ ∀ c ∈ name, isNameChar c = true := by
  simp [isName]

@[simp] theorem isUnitName_ofList (name : List Char) :
    isUnitName (String.ofList name) = isName name := by
  simp [isUnitName]

theorem not_isBlank_of_isNameChar {c : Char} (h : isNameChar c = true) :
    Text.isBlank c = false := by
  simp only [isNameChar, Bool.and_eq_true, Bool.not_eq_true'] at h
  exact h.1

end UnitCheck
