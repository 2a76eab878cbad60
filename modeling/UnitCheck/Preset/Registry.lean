import Std.Data.TreeMap
import UnitCheck.Rules.Book

/-!
# Presets

A preset is a rule text that questions select by number. The numbers below `firstSiteId` belong to
the built-in presets; a site adds its own from there upwards.

* `Registry.add` offers the registry one preset. It refuses a reserved number, a number in use and
  rules that do not compile, checked in this order.
* `Registry.extend` is the registry with one more preset, and `Registry.addAll` that with a list of
  presets, all or none.
-/

namespace UnitCheck

/-- A named rule text. -/
structure Preset where
  id : UInt32
  name : String
  rules : String := ""
deriving DecidableEq, Repr

/-- The ways in which presets of a site are refused. -/
inductive PresetError where
  /-- The number belongs to the built-in presets. -/
  | reservedId (id : UInt32)
  /-- The number is in use. -/
  | duplicateId (id : UInt32)
  /-- The rules do not compile. -/
  | invalidRules (id : UInt32) (cause : RuleError)
  /-- The text is no list of presets. Where and why reading it stopped is not kept. -/
  | malformed
deriving DecidableEq, Repr

/-- The wording of a refused preset. That of a malformed file is the constant part alone. -/
def PresetError.message : PresetError → String
  | .reservedId id =>
      "preset id " ++ toString id.toNat ++
        " is reserved for built-in rules (site presets start at 100)"
  | .duplicateId id => "duplicate preset id " ++ toString id.toNat
  | .invalidRules id cause =>
      "preset " ++ toString id.toNat ++ " has invalid rules: " ++ cause.message
  | .malformed => "malformed preset file"

/-- The least number of a preset of the site. -/
def firstSiteId : UInt32 := 100

/-- The common SI units with their usual prefixes. -/
def commonSiRules : String := "
m: k c d m u n p f;
s: m u n p f;
g: k m u n p f;
mol: m u n p;
N: k m u n p f;
A: m u n p f;
J: k M G T P m u n p f;
J = 6.24150947e+18 eV;
eV: k M G T P m u;
W: k M G T P m u n p f;
Pa: k M G T P;
Hz: k M G T P E;
C: k m u n p f;
V: k M G m u n p f;
ohm: m k M G T P;
F: m u n p f;
T: k m u n p;
H: k m u n p;
"

/-- The presets in use, sorted by number. -/
structure Registry where
  entries : Std.TreeMap UInt32 Preset

namespace Registry

/-- The registry without presets. -/
def empty : Registry := ⟨{}⟩

/-- The registry with a preset stored under its number. -/
def insert (registry : Registry) (preset : Preset) : Registry :=
  ⟨registry.entries.insert preset.id preset⟩

/-- The registry of the built-in presets. -/
def builtin : Registry :=
  (empty.insert { id := 0, name := "None" }).insert
    { id := 1, name := "Common SI units", rules := commonSiRules }

/-- The preset with the given number. -/
def get? (registry : Registry) (id : UInt32) : Option Preset :=
  registry.entries[id]?

/-- The presets by ascending number. -/
def presets (registry : Registry) : List Preset :=
  registry.entries.values

/-- The number of presets. -/
def size (registry : Registry) : Nat := registry.entries.size

/-- Offers a preset of the site: the registry after it, and why the preset is refused if it is. -/
def add (registry : Registry) (preset : Preset) : Registry × Option PresetError :=
  if preset.id < firstSiteId then (registry, some (.reservedId preset.id))
  else if registry.entries.contains preset.id then (registry, some (.duplicateId preset.id))
  else match RuleBook.ofRules (α := Float) preset.rules with
    | .ok _ => (registry.insert preset, none)
    | .error cause => (registry, some (.invalidRules preset.id cause))

/-- The registry with a preset of the site added, if it is not refused. -/
def extend (registry : Registry) (preset : Preset) : Except PresetError Registry :=
  match registry.add preset with
  | (larger, none) => .ok larger
  | (_, some failure) => .error failure

/-- Adds presets of the site from first to last, all or none. -/
def addAll (registry : Registry) (presets : List Preset) : Except PresetError Registry :=
  presets.foldlM extend registry

end Registry

end UnitCheck
