import UnitCheck.Form.Diagnostic
import UnitCheck.Form.Part
import UnitCheck.Form.Unit
import UnitCheck.Proofs.Form.Record
import UnitCheck.Proofs.Preset.Loading

/-!
# JSON forms are read back

Diagnostics, unit vectors, presets and part settings are given back by their JSON text, and the
presets of the site are given back as a registry.

* `Document.Inverts` is composed: there is one lemma for each kind of leaf, for lists, and for each
  record, given its entries.
* `Registry.load_ofSite` reloads a registry. Whatever it has taken in can be taken in again, all at
  once.
* `json_roundTrip` puts them together.
-/

namespace UnitCheck

namespace Document

/-! ## Leaves and lists -/

theorem inverts_string : Inverts string? .string where
  exact _ := .atom trivial
  back _ := rfl

/-- Words of 32 bits, signed or unsigned, are exact. -/
theorem exact_of_word {z : Int} (lower : -2147483648 ≤ z) (upper : z < 4294967296) :
    (Json.int z).Exact := by
  have least : Int64.minValue.toInt = -9223372036854775808 := rfl
  have size : UInt64.size = 18446744073709551616 := rfl
  exact .atom ⟨by omega, by omega⟩

theorem inverts_uint32 : Inverts uint32? fun value => .int value.toNat where
  exact value := by
    have bounded := value.toNat_lt
    exact exact_of_word (by omega) (by omega)
  back value := by
    have inside : (0 ≤ (value.toNat : Int) && (value.toNat : Int) < UInt32.size) = true := by
      have bounded : (value.toNat : Int) < UInt32.size := Int.ofNat_lt.mpr value.toNat_lt
      rw [Bool.and_eq_true, decide_eq_true_eq, decide_eq_true_eq]
      exact ⟨Int.natCast_nonneg _, bounded⟩
    rw [Json.toDocument, uint32?, int?, Option.bind_eq_bind, Option.bind_some, if_pos inside,
      Int.toNat_natCast, UInt32.ofNat_toNat]

theorem inverts_int32 : Inverts int32? fun value => .int value.toInt where
  exact value := by
    have lower := value.le_toInt
    have upper := value.toInt_lt
    exact exact_of_word (by omega) (by omega)
  back value := by
    have inside : (Int32.minValue.toInt ≤ value.toInt &&
        value.toInt ≤ Int32.maxValue.toInt) = true := by
      rw [Bool.and_eq_true, decide_eq_true_eq, decide_eq_true_eq]
      exact ⟨value.le_toInt, Int.le_of_lt_add_one value.toInt_lt⟩
    rw [Json.toDocument, int32?, int?, Option.bind_eq_bind, Option.bind_some, if_pos inside,
      Int32.ofInt_toInt]

theorem Inverts.list {β : Type} {read : Document → Option β} {write : β → Json}
    (inverts : Inverts read write) :
    Inverts (list? read) fun values => .array (values.map write) where
  exact values := by
    refine .array fun item member => ?_
    obtain ⟨value, -, rfl⟩ := List.mem_map.mp member
    exact inverts.exact value
  back values := by
    have each : ∀ value ∈ values, (read ∘ Json.toDocument ∘ write) value = some (id value) :=
      fun value _ => inverts.back value
    rw [Json.toDocument_array, list?, List.map_map, List.mapM_map, mapM_eq_some_map each,
      List.map_id]

end Document

open Document

/-! ## Units -/

namespace UnitPower

def entries (power : UnitPower) : List (String × Option Json) :=
  [("unit", some (.string power.unit)), ("exponent", some (.int power.exponent.toInt))]

theorem inverts : Inverts ofDocument? toJson := by
  refine .record ["unit", "exponent"] entries (by decide) (fun _ => rfl) (fun _ => rfl) ?_ ?_
  · intro power
    have unit := inverts_string.exact power.unit
    have exponent := inverts_int32.exact power.exponent
    simpa [entries] using ⟨unit, exponent⟩
  · intro document power slots
    have unit := Slot.required?_ofWritten inverts_string power.unit
    have exponent := Slot.required?_ofWritten inverts_int32 power.exponent
    rw [ofDocument?, slots]
    simp [entries, unit, exponent]

end UnitPower

theorem UnitVector.inverts : Inverts UnitVector.ofDocument? UnitVector.toJson where
  exact v := UnitPower.inverts.list.exact v.powers
  back v := by
    rw [ofDocument?, toJson, UnitPower.inverts.list.back v.powers]
    rfl

/-! ## Presets and part settings -/

namespace Preset

def entries (preset : Preset) : List (String × Option Json) :=
  [("id", some (.int preset.id.toNat)), ("name", some (.string preset.name)),
    ("rules", some (.string preset.rules))]

theorem ofDocument?_of_slots {document : Document} {id name rules : Slot} {preset : Preset}
    (slots : document.slots? ["id", "name", "rules"] = some [id, name, rules])
    (idRead : id.required? uint32? = some preset.id)
    (nameRead : name.required? string? = some preset.name)
    (rulesRead : rules.withDefault? "" string? = some preset.rules) :
    ofDocument? document = some preset := by
  -- With the written slots in place, checking this would count up to the bound of a word.
  rw [ofDocument?, slots]
  simp [idRead, nameRead, rulesRead]

theorem inverts : Inverts ofDocument? toJson := by
  refine .record ["id", "name", "rules"] entries (by decide) (fun _ => rfl) (fun _ => rfl) ?_ ?_
  · intro preset
    have id := inverts_uint32.exact preset.id
    have name := inverts_string.exact preset.name
    have rules := inverts_string.exact preset.rules
    simpa [entries] using ⟨id, name, rules⟩
  · intro document preset slots
    exact ofDocument?_of_slots slots (Slot.required?_ofWritten inverts_uint32 preset.id)
      (Slot.required?_ofWritten inverts_string preset.name)
      (Slot.withDefault?_ofWritten inverts_string "" preset.rules)

end Preset

namespace PartSettings

def entries (part : PartSettings) : List (String × Option Json) :=
  [("rule_id", some (.int part.ruleId.toNat)),
    ("additional_rules", some (.string part.additionalRules)),
    ("targets", some (.string part.targets))]

theorem ofDocument?_of_slots {document : Document} {ruleId additionalRules targets : Slot}
    {part : PartSettings}
    (slots : document.slots? ["rule_id", "additional_rules", "targets"] =
      some [ruleId, additionalRules, targets])
    (ruleIdRead : ruleId.withDefault? 0 uint32? = some part.ruleId)
    (additionalRulesRead : additionalRules.withDefault? "" string? = some part.additionalRules)
    (targetsRead : targets.withDefault? "" string? = some part.targets) :
    ofDocument? document = some part := by
  rw [ofDocument?, slots]
  simp [ruleIdRead, additionalRulesRead, targetsRead]

theorem inverts : Inverts ofDocument? toJson := by
  refine .record ["rule_id", "additional_rules", "targets"] entries (by decide) (fun _ => rfl)
    (fun _ => rfl) ?_ ?_
  · intro part
    have ruleId := inverts_uint32.exact part.ruleId
    have additionalRules := inverts_string.exact part.additionalRules
    have targets := inverts_string.exact part.targets
    simpa [entries] using ⟨ruleId, additionalRules, targets⟩
  · intro document part slots
    exact ofDocument?_of_slots slots (Slot.withDefault?_ofWritten inverts_uint32 0 part.ruleId)
      (Slot.withDefault?_ofWritten inverts_string "" part.additionalRules)
      (Slot.withDefault?_ofWritten inverts_string "" part.targets)

end PartSettings

/-! ## Diagnostics -/

theorem Severity.inverts : Inverts Severity.ofDocument? fun severity => .string severity.name where
  exact _ := .atom trivial
  back severity := by cases severity <;> rfl

namespace ErrorContext

/-- The value of the notes, which are left out when there are none. -/
def notesJson (notes : List String) : Option Json :=
  if notes.isEmpty then none else some (.array (notes.map .string))

def entries (context : ErrorContext) : List (String × Option Json) :=
  [("field", context.field.map .string), ("clause", context.clause.map .string),
    ("notes", notesJson context.notes)]

theorem toJson_eq (context : ErrorContext) :
    context.toJson = .object (Json.written context.entries) := by
  obtain ⟨field, clause, notes⟩ := context
  cases field <;> cases clause <;> cases notes <;> rfl

theorem withDefault?_notesJson (notes : List String) :
    Slot.withDefault? [] (list? string?) (Slot.ofWritten (notesJson notes)) = some notes := by
  cases notes with
  | nil => rfl
  | cons note rest => exact inverts_string.list.back (note :: rest)

theorem exact_notesJson (notes : List String) : ∀ json ∈ notesJson notes, json.Exact := by
  cases notes with
  | nil => simp [notesJson]
  | cons note rest =>
      rintro json ⟨⟩
      exact inverts_string.list.exact (note :: rest)

theorem inverts : Inverts ofDocument? toJson := by
  refine .record ["field", "clause", "notes"] entries (by decide) (fun _ => rfl) toJson_eq ?_ ?_
  · intro context
    have field := inverts_string.exact_map context.field
    have clause := inverts_string.exact_map context.clause
    have notes := exact_notesJson context.notes
    simp only [entries, List.forall_mem_cons]
    exact ⟨field, clause, notes, by simp⟩
  · intro document context slots
    have field := Slot.optional?_ofWritten inverts_string (by simp) context.field
    have clause := Slot.optional?_ofWritten inverts_string (by simp) context.clause
    have notes := withDefault?_notesJson context.notes
    rw [ofDocument?, slots]
    simp [entries, field, clause, notes]

end ErrorContext

namespace Diagnostic

def entries (d : Diagnostic) : List (String × Option Json) :=
  [("code", some (.string d.code)), ("message", some (.string d.message)),
    ("suggestion", d.suggestion.map .string), ("context", d.context.map ErrorContext.toJson),
    ("severity", some (.string d.severity.name))]

theorem toJson_eq (d : Diagnostic) : d.toJson = .object (Json.written d.entries) := by
  obtain ⟨code, message, suggestion, context, severity⟩ := d
  cases suggestion <;> cases context <;> rfl

theorem inverts : Inverts ofDocument? toJson := by
  refine .record ["code", "message", "suggestion", "context", "severity"] entries (by decide)
    (fun _ => rfl) toJson_eq ?_ ?_
  · intro d
    have suggestion := inverts_string.exact_map d.suggestion
    have context := ErrorContext.inverts.exact_map d.context
    simp only [entries, List.forall_mem_cons]
    exact ⟨by rintro _ ⟨⟩; exact inverts_string.exact d.code,
      by rintro _ ⟨⟩; exact inverts_string.exact d.message, suggestion, context,
      by rintro _ ⟨⟩; exact Severity.inverts.exact d.severity, by simp⟩
  · intro document d slots
    have code := Slot.required?_ofWritten inverts_string d.code
    have message := Slot.required?_ofWritten inverts_string d.message
    have suggestion := Slot.optional?_ofWritten inverts_string (by simp) d.suggestion
    have context := Slot.optional?_ofWritten ErrorContext.inverts (by simp [ErrorContext.toJson])
      d.context
    have severity := Slot.required?_ofWritten Severity.inverts d.severity
    rw [ofDocument?, slots]
    simp [entries, code, message, suggestion, context, severity]

end Diagnostic

/-! ## Registries -/

namespace Registry

/-- The presets with a number of the site. -/
def ofSite (registry : Registry) : List Preset :=
  registry.presets.filter fun preset => 100 ≤ preset.id

variable {registry : Registry}

theorem builtin_get?_of_site {id : UInt32} (site : 100 ≤ id) : builtin.get? id = none := by
  have above : ∀ reserved : UInt32, reserved < 100 → reserved ≠ id := by
    rintro reserved below rfl
    exact UInt32.not_le.mpr below site
  rw [builtin, get?_insert, if_neg (above 1 (by decide)), get?_insert, if_neg (above 0 (by decide)),
    get?_empty]

theorem Grown.mem_ofSite_iff (grown : Grown builtin registry) {preset : Preset} :
    preset ∈ registry.ofSite ↔
      registry.get? preset.id = some preset ∧ 100 ≤ preset.id := by
  rw [ofSite, List.mem_filter, grown.listed, decide_eq_true_eq]

theorem Grown.loadable_ofSite (grown : Grown builtin registry) :
    builtin.Loadable registry.ofSite where
  site preset member := (grown.mem_ofSite_iff.mp member).2
  distinct := by
    have distinct : (registry.presets.map (·.id)).Nodup :=
      grown.ascending.imp fun smaller => UInt32.ne_of_lt smaller
    exact distinct.sublist (List.filter_sublist.map _)
  unused preset member := builtin_get?_of_site (grown.mem_ofSite_iff.mp member).2
  compiles preset member := grown.compiles preset.id preset (grown.mem_ofSite_iff.mp member).1

theorem Grown.get?_insertAll_ofSite (grown : Grown builtin registry)
    (extended : builtin.Extends registry) (id : UInt32) :
    (builtin.insertAll registry.ofSite).get? id = registry.get? id := by
  by_cases member : id ∈ registry.ofSite.map (·.id)
  · obtain ⟨preset, here, rfl⟩ := List.mem_map.mp member
    rw [get?_insertAll_of_mem grown.loadable_ofSite.distinct here,
      (grown.mem_ofSite_iff.mp here).1]
  · rw [get?_insertAll_of_not_mem member]
    cases stored : registry.get? id with
    | none =>
        cases builtins : builtin.get? id with
        | none => rfl
        | some preset => cases stored.symm.trans (extended id preset builtins)
    | some preset =>
        rcases grown.site id preset stored with builtins | site
        · exact builtins
        · obtain rfl := grown.keyed id preset stored
          exact absurd (List.mem_map_of_mem (grown.mem_ofSite_iff.mpr ⟨stored, site⟩)) member

theorem load_ofSite (offers : List PresetOffer) :
    ∃ reloaded,
      builtin.load (Json.array ((builtin.afterAll offers).ofSite.map Preset.toJson)).render =
        .ok reloaded ∧
      reloaded.presets = (builtin.afterAll offers).presets ∧
      ∀ id, reloaded.get? id = (builtin.afterAll offers).get? id := by
  have grown := grown_afterAll .builtin offers
  have same := grown.get?_insertAll_ofSite (extends_afterAll builtin offers)
  refine ⟨builtin.insertAll (builtin.afterAll offers).ofSite, ?_, presets_congr same, same⟩
  rw [load_eq_ok_iff]
  exact ⟨_, Preset.inverts.list.read?_render _, grown.loadable_ofSite, rfl⟩

end Registry

/-- Whatever is written is read back: each diagnostic, unit vector, preset and part settings from
its own text, and each registry that has grown from the built-in presets from the list of the
presets of its site. -/
theorem json_roundTrip :
    (∀ d : Diagnostic, Diagnostic.read? d.toJson.render = some d) ∧
    (∀ v : UnitVector, UnitVector.read? v.toJson.render = some v) ∧
    (∀ preset : Preset,
      (Document.read? preset.toJson.render).bind Preset.ofDocument? = some preset) ∧
    (∀ part : PartSettings, PartSettings.read? part.toJson.render = some part) ∧
    ∀ offers, ∃ reloaded,
      Registry.builtin.load
          (Json.array ((Registry.builtin.afterAll offers).ofSite.map Preset.toJson)).render =
        .ok reloaded ∧
      reloaded.presets = (Registry.builtin.afterAll offers).presets ∧
      ∀ id, reloaded.get? id = (Registry.builtin.afterAll offers).get? id :=
  ⟨Diagnostic.inverts.read?_render, UnitVector.inverts.read?_render, Preset.inverts.read?_render,
    PartSettings.inverts.read?_render, Registry.load_ofSite⟩

/-- An empty context is written, unlike one that is missing. -/
example : ({ code := "A", message := "b\t", context := some {} } : Diagnostic).toJson.render =
    "\x7b\"code\":\"A\",\"message\":\"b\\t\",\"context\":\x7b\x7d,\"severity\":\"error\"\x7d" := by
  decide +kernel

end UnitCheck
