import UnitCheck.Form.Preset

/-!
# Registration of presets

`add_cases` is all that offering a preset to a registry can do: the preset joins, or there is one
reason to refuse it and the registry stays as it is. `Registry.Sound` is what a session relies on; a
preset that joins keeps it.
-/

namespace UnitCheck.Registry

@[simp] theorem get?_empty (id : UInt32) : empty.get? id = none := by
  simp [get?, empty]

theorem get?_insert (registry : Registry) (preset : Preset) (id : UInt32) :
    (registry.insert preset).get? id =
      if preset.id = id then some preset else registry.get? id := by
  simp [get?, insert, Std.TreeMap.getElem?_insert]

theorem contains_entries (registry : Registry) (id : UInt32) :
    registry.entries.contains id = (registry.get? id).isSome := by
  rw [get?, Std.TreeMap.contains_eq_isSome_getElem?]

/-- Why a preset cannot join when the numbers in use are `taken` and those below 100 are reserved.
The reasons exclude each other. -/
inductive Refuses (taken : UInt32 → Prop) (preset : Preset) : PresetError → Prop
  | reserved : preset.id < 100 → Refuses taken preset (.reservedId preset.id)
  | duplicate : 100 ≤ preset.id → taken preset.id →
      Refuses taken preset (.duplicateId preset.id)
  | invalid {cause : RuleError} : 100 ≤ preset.id → ¬taken preset.id →
      RuleBook.ofRules (α := Float) preset.rules = .error cause →
      Refuses taken preset (.invalidRules preset.id cause)

/-- The conditions under which a preset can join a registry. -/
structure Admits (registry : Registry) (preset : Preset) : Prop where
  site : 100 ≤ preset.id
  unused : registry.get? preset.id = none
  compiles : ∃ book, RuleBook.ofRules (α := Float) preset.rules = .ok book

variable {registry larger : Registry} {preset : Preset} {failure : PresetError}

theorem Admits.not_refuses (admits : registry.Admits preset) :
    ¬Refuses (fun id => registry.get? id ≠ none) preset failure := by
  intro refuses
  cases refuses with
  | reserved reserved => exact UInt32.not_lt.mpr admits.site reserved
  | duplicate _ used => exact used admits.unused
  | invalid _ _ failed =>
      obtain ⟨book, compiled⟩ := admits.compiles
      cases compiled.symm.trans failed

theorem Refuses.unique {taken : UInt32 → Prop} {other : PresetError}
    (refuses : Refuses taken preset failure) (also : Refuses taken preset other) :
    failure = other := by
  cases refuses with
  | reserved reserved =>
      cases also with
      | reserved _ => rfl
      | duplicate site _ => exact absurd reserved (UInt32.not_lt.mpr site)
      | invalid site _ _ => exact absurd reserved (UInt32.not_lt.mpr site)
  | duplicate site used =>
      cases also with
      | reserved reserved => exact absurd reserved (UInt32.not_lt.mpr site)
      | duplicate _ _ => rfl
      | invalid _ unused _ => exact absurd used unused
  | invalid site unused failed =>
      cases also with
      | reserved reserved => exact absurd reserved (UInt32.not_lt.mpr site)
      | duplicate _ used => exact absurd used unused
      | invalid _ _ again => rw [Except.error.inj (failed.symm.trans again)]

theorem add_cases (registry : Registry) (preset : Preset) :
    (registry.Admits preset ∧ registry.add preset = (registry.insert preset, none)) ∨
      ∃ failure, Refuses (fun id => registry.get? id ≠ none) preset failure ∧
        registry.add preset = (registry, some failure) := by
  unfold add
  rw [contains_entries]
  split
  · rename_i reserved
    exact Or.inr ⟨_, .reserved reserved, rfl⟩
  · rename_i site
    rw [UInt32.not_lt] at site
    split
    · rename_i used
      exact Or.inr ⟨_, .duplicate site (Option.isSome_iff_ne_none.mp used), rfl⟩
    · rename_i unused
      split
      · rename_i book compiled
        exact Or.inl ⟨⟨site, Option.not_isSome_iff_eq_none.mp unused, book, compiled⟩, rfl⟩
      · rename_i failed
        exact Or.inr ⟨_, .invalid site (mt Option.isSome_iff_ne_none.mpr unused) failed, rfl⟩

theorem add_of_admits (admits : registry.Admits preset) :
    registry.add preset = (registry.insert preset, none) := by
  rcases registry.add_cases preset with ⟨-, added⟩ | ⟨failure, refuses, -⟩
  · exact added
  · exact absurd refuses admits.not_refuses

/-- A preset that is refused leaves the registry as it was. -/
theorem add_of_refused (refused : (registry.add preset).2 = some failure) :
    (registry.add preset).1 = registry := by
  rcases registry.add_cases preset with ⟨-, added⟩ | ⟨failure, -, added⟩
  · rw [added] at refused
    cases refused
  · rw [added]

theorem add_keeps {kept : Registry → Prop} (holds : kept registry)
    (joined : registry.Admits preset → kept (registry.insert preset)) :
    kept (registry.add preset).1 := by
  rcases registry.add_cases preset with ⟨admits, added⟩ | ⟨failure, -, added⟩
  · rw [added]
    exact joined admits
  · rw [added]
    exact holds

theorem extend_eq_ok_iff :
    registry.extend preset = .ok larger ↔
      registry.Admits preset ∧ larger = registry.insert preset := by
  unfold extend
  rcases registry.add_cases preset with ⟨admits, added⟩ | ⟨failure, refuses, added⟩
  · simp [added, admits, eq_comm]
  · rw [added]
    constructor
    · intro impossible
      cases impossible
    · rintro ⟨admits, -⟩
      exact absurd refuses admits.not_refuses

theorem extend_eq_error_iff :
    registry.extend preset = .error failure ↔
      Refuses (fun id => registry.get? id ≠ none) preset failure := by
  unfold extend
  rcases registry.add_cases preset with ⟨admits, added⟩ | ⟨actual, refuses, added⟩
  · simp [added, admits.not_refuses]
  · rw [added, Except.error.injEq]
    exact ⟨fun same => same ▸ refuses, refuses.unique⟩

/-- Each preset is stored under its own number, and the one that is selected before any choice has
no rules. -/
structure Sound (registry : Registry) : Prop where
  keyed : ∀ id preset, registry.get? id = some preset → preset.id = id
  unruled : ∀ preset, registry.get? 0 = some preset → preset.rules = ""

theorem sound_empty : Sound empty := by
  constructor
  · intro id preset found
    simp at found
  · intro preset found
    simp at found

theorem Sound.insert {registry : Registry} (sound : registry.Sound) {preset : Preset}
    (unruled : preset.id = 0 → preset.rules = "") : (registry.insert preset).Sound := by
  constructor
  · intro id other found
    rw [get?_insert] at found
    split at found
    · rename_i same
      rw [← Option.some.inj found, same]
    · exact sound.keyed id other found
  · intro other found
    rw [get?_insert] at found
    split at found
    · rename_i zero
      rw [← Option.some.inj found, unruled zero]
    · exact sound.unruled other found

theorem sound_builtin : Sound builtin := by
  apply Sound.insert
  · apply sound_empty.insert
    intro _
    rfl
  · intro zero
    exact absurd zero (by decide)

theorem Sound.join (sound : registry.Sound) (admits : registry.Admits preset) :
    (registry.insert preset).Sound := by
  apply sound.insert
  intro zero
  have site := admits.site
  rw [zero] at site
  exact absurd site (by decide)

end UnitCheck.Registry
