import Mathlib.Data.List.Find
import UnitCheck.Proofs.Matching.Counterpart

/-!
# What matching looks at

Matching looks up the base units of the unit and of the targets and no others. Of these it reads the
scales, and which two of them are in one class; the number of a class plays no part.

`ConversionTable.AgreeOn` is the relation between tables that matching cannot tell apart, and
`matchTargets_eq_of_agreeOn` says so.
-/

namespace UnitCheck

variable {α : Type}

/-- Two tables give the same scales to some names and put the same ones of them into one class. -/
structure ConversionTable.AgreeOn (table other : ConversionTable α) (names : String → Prop) :
    Prop where
  scale : ∀ name, names name → table[name]?.map (·.scale) = other[name]?.map (·.scale)
  sameClass : ∀ a b, names a → names b → table.sameClass a b = other.sameClass a b

/-- The names that occur in a unit or in a target. -/
def Occurring (unit : UnitVector) (targets : TargetList) (name : String) : Prop :=
  name ∈ unit.units ∨ ∃ target ∈ targets, name ∈ target.units

variable {table other : ConversionTable α} {names : String → Prop}

theorem agreeOn_of_getElem?_eq (same : ∀ name, names name → table[name]? = other[name]?) :
    table.AgreeOn other names := by
  constructor
  · intro name member
    rw [same name member]
  · intro a b left right
    rw [ConversionTable.sameClass, ConversionTable.sameClass, same a left, same b right]

section

variable {target : UnitVector} (agree : table.AgreeOn other names)
  (targetNames : ∀ name ∈ target.units, names name)

include agree targetNames

theorem counterpart?_eq_of_agreeOn {unit : String} (member : names unit) :
    counterpart? table target unit = counterpart? other target unit := by
  have converted : target.powers.find? (fun power => table.sameClass unit power.unit) =
      target.powers.find? fun power => other.sameClass unit power.unit := by
    apply List.find?_congr
    intro power powerMember
    exact agree.sameClass unit power.unit member
      (targetNames power.unit (List.mem_map_of_mem powerMember))
  rw [counterpart?, counterpart?, converted]

theorem covered_iff_of_agreeOn {powers : List UnitPower}
    (unitNames : ∀ power ∈ powers, names power.unit) :
    Covered table target powers ↔ Covered other target powers := by
  unfold Covered
  refine forall₂_congr fun power member => ?_
  rw [counterpart?_eq_of_agreeOn agree targetNames (unitNames power member)]

end

variable [Magnitude α]

theorem scaleRatio_eq_of_agreeOn (agree : table.AgreeOn other names) {a b : String} (left : names a)
    (right : names b) : (scaleRatio table a b : α) = scaleRatio other a b := by
  have first := agree.scale a left
  have second := agree.scale b right
  unfold scaleRatio
  generalize table[a]? = entry, other[a]? = otherEntry, table[b]? = candidate,
    other[b]? = otherCandidate at first second ⊢
  cases entry <;> cases otherEntry <;> cases candidate <;> cases otherCandidate <;> simp_all

theorem contribution_eq_of_agreeOn {target : UnitVector} (agree : table.AgreeOn other names)
    (targetNames : ∀ name ∈ target.units, names name) {power : UnitPower}
    (member : names power.unit) :
    (contribution table target power : α) = contribution other target power := by
  unfold contribution
  rw [counterpart?_eq_of_agreeOn agree targetNames member]
  cases found : counterpart? other target power.unit with
  | none => rfl
  | some partner =>
      have partnerName : names partner.unit :=
        targetNames partner.unit (List.mem_map_of_mem (counterpart?_mem found))
      simp only [scaleRatio_eq_of_agreeOn agree member partnerName]

theorem matchTarget_eq_of_agreeOn {unit target : UnitVector} (agree : table.AgreeOn other names)
    (unitNames : ∀ name ∈ unit.units, names name)
    (targetNames : ∀ name ∈ target.units, names name) :
    matchTarget table unit target = matchTarget other unit target := by
  have powerNames : ∀ power ∈ unit.powers, names power.unit :=
    fun power member => unitNames power.unit (List.mem_map_of_mem member)
  have factors : unit.powers.foldl
      (fun product power => product * contribution table target power) (1 : α) =
      unit.powers.foldl (fun product power => product * contribution other target power) 1 := by
    apply List.foldl_ext
    intro product power member
    rw [contribution_eq_of_agreeOn agree targetNames (powerNames power member)]
  ext factor
  rw [matchTarget_eq_some_iff, matchTarget_eq_some_iff, factors,
    covered_iff_of_agreeOn agree targetNames powerNames]

theorem matchFrom_congr {unit : UnitVector} {targets : TargetList}
    (same : ∀ target ∈ targets, matchTarget table unit target = matchTarget other unit target)
    (first : Nat) : matchFrom table unit first targets = matchFrom other unit first targets := by
  induction targets generalizing first with
  | nil => rfl
  | cons target rest ih =>
      obtain ⟨here, later⟩ := List.forall_mem_cons.mp same
      rw [matchFrom, matchFrom, here, ih later]

/-- Tables that agree on the names that occur match alike. -/
theorem matchTargets_eq_of_agreeOn {unit : UnitVector} {targets : TargetList}
    (agree : table.AgreeOn other (Occurring unit targets)) :
    matchTargets table unit targets = matchTargets other unit targets := by
  apply matchFrom_congr
  intro target member
  exact matchTarget_eq_of_agreeOn agree (fun name occurs => Or.inl occurs)
    fun name occurs => Or.inr ⟨target, member, occurs⟩

end UnitCheck
