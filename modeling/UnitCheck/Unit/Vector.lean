/-!
# Unit vectors

A compound unit such as `kg m^2/s^2` is an ordered list of base units with integer exponents. Base
units are arbitrary names, so two vectors are equal only when they spell the same units in the same
order. The order is kept because conversion looks through the units of a target from first to last.
-/

namespace UnitCheck

/-- A base unit raised to an integer power. -/
structure UnitPower where
  unit : String
  exponent : Int32
deriving DecidableEq, Repr, Inhabited

/-- The text of a base unit with its exponent; an exponent of one is left out. -/
def UnitPower.render (power : UnitPower) : String :=
  if power.exponent = 1 then power.unit
  else power.unit ++ "^" ++ toString power.exponent.toInt

/-- A product of powers of base units, in the order in which they are written. -/
structure UnitVector where
  powers : List UnitPower
deriving DecidableEq, Repr, Inhabited

namespace UnitVector

/-- The dimensionless unit. -/
def empty : UnitVector := ⟨[]⟩

/-- A vector of one base unit. -/
def single (unit : String) (exponent : Int32) : UnitVector := ⟨[⟨unit, exponent⟩]⟩

/-- The number of base units. -/
def size (v : UnitVector) : Nat := v.powers.length

/-- A vector without base units is dimensionless. -/
def isEmpty (v : UnitVector) : Bool := v.powers.isEmpty

/-- The base units in order. -/
def units (v : UnitVector) : List String := v.powers.map (·.unit)

/-- The exponent of the first power of `unit`. -/
def get? (v : UnitVector) (unit : String) : Option Int32 :=
  (v.powers.find? (·.unit = unit)).map (·.exponent)

/-- Whether some power of `unit` occurs. -/
def contains (v : UnitVector) (unit : String) : Bool :=
  v.powers.any (·.unit = unit)

/-- The vector with one more power at its end, unless its unit occurs already. -/
def push? (v : UnitVector) (power : UnitPower) : Option UnitVector :=
  if v.contains power.unit then none else some ⟨v.powers ++ [power]⟩

/-- The vector of the given powers; there is none if a unit repeats or an exponent is zero. -/
def ofPowers? (powers : List UnitPower) : Option UnitVector :=
  powers.foldlM (fun v power => if power.exponent = 0 then none else v.push? power) empty

/-- The vector with every exponent negated. -/
def inverse (v : UnitVector) : UnitVector :=
  ⟨v.powers.map fun power => { power with exponent := -power.exponent }⟩

/-- The text of a vector: its powers with a space between, and `1` for no powers. -/
def render (v : UnitVector) : String :=
  if v.isEmpty then "1" else " ".intercalate (v.powers.map UnitPower.render)

/-- The units of a vector are pairwise distinct and no exponent is zero. -/
def Reduced (v : UnitVector) : Prop :=
  v.units.Nodup ∧ ∀ power ∈ v.powers, power.exponent ≠ 0

theorem contains_iff {v : UnitVector} {unit : String} :
    v.contains unit = true ↔ unit ∈ v.units := by
  simp [contains, units, List.any_eq_true]

theorem push?_eq_some_iff {v w : UnitVector} {power : UnitPower} :
    v.push? power = some w ↔ power.unit ∉ v.units ∧ w = ⟨v.powers ++ [power]⟩ := by
  unfold push?
  split
  · rename_i present
    simp [contains_iff.1 present]
  · rename_i absent
    have fresh : power.unit ∉ v.units := fun member => absent (contains_iff.2 member)
    simp [fresh, eq_comm]

end UnitVector

end UnitCheck
