import UnitCheck.Proofs.Preset.Growth
import UnitCheck.Service.Server

/-!
# Files of presets

A file counts as a whole. It is taken in exactly when its presets are `Loadable`, which is said of
all of them at once and leaves their order out; each preset is then found under its number. The
presets are offered one after another though, and the error of a file that is refused is that of the
first preset which cannot join those before it: `FirstRefusal`.

* `addAll_eq_ok_iff` and `addAll_eq_error_iff` are the two outcomes of a list of presets.
* `insertAll_perm` compares two orders of a list.
* `load_all_or_none` puts them together for files.
-/

namespace UnitCheck.Registry

/-- Whether a number is in use once the presets `before` have joined. -/
def Taken (registry : Registry) (before : List Preset) (id : UInt32) : Prop :=
  registry.get? id ≠ none ∨ id ∈ before.map (·.id)

/-- The conditions under which presets can join together. -/
structure Loadable (registry : Registry) (presets : List Preset) : Prop where
  site : ∀ preset ∈ presets, 100 ≤ preset.id
  distinct : (presets.map (·.id)).Nodup
  unused : ∀ preset ∈ presets, registry.get? preset.id = none
  compiles : ∀ preset ∈ presets, ∃ book, RuleBook.ofRules (α := Float) preset.rules = .ok book

/-- The first preset of a list that cannot join the registry and the presets before it. -/
structure FirstRefusal (registry : Registry) (presets before : List Preset) (preset : Preset)
    (after : List Preset) (failure : PresetError) : Prop where
  presets : presets = before ++ preset :: after
  accepted : ∀ front earlier back, before = front ++ earlier :: back →
    ∀ cause, ¬Refuses (registry.Taken front) earlier cause
  refused : Refuses (registry.Taken before) preset failure

/-- The registry with presets stored under their numbers. -/
def insertAll (registry : Registry) (presets : List Preset) : Registry :=
  presets.foldl insert registry

variable {registry larger : Registry} {presets : List Preset}

/-! ## What is stored -/

theorem get?_insertAll_of_not_mem {id : UInt32} (absent : id ∉ presets.map (·.id)) :
    (registry.insertAll presets).get? id = registry.get? id := by
  induction presets generalizing registry with
  | nil => rfl
  | cons preset rest ih =>
      rw [List.map_cons, List.mem_cons, not_or] at absent
      rw [insertAll, List.foldl_cons, ← insertAll, ih absent.2, get?_insert,
        if_neg (Ne.symm absent.1)]

theorem get?_insertAll_of_mem (distinct : (presets.map (·.id)).Nodup) {preset : Preset}
    (member : preset ∈ presets) : (registry.insertAll presets).get? preset.id = some preset := by
  induction presets generalizing registry with
  | nil => cases member
  | cons first rest ih =>
      obtain ⟨fresh, others⟩ := List.nodup_cons.mp distinct
      rw [insertAll, List.foldl_cons, ← insertAll]
      rcases List.mem_cons.mp member with rfl | later
      · rw [get?_insertAll_of_not_mem fresh, get?_insert, if_pos rfl]
      · exact ih others later

theorem taken_iff (id : UInt32) :
    registry.Taken presets id ↔ (registry.insertAll presets).get? id ≠ none := by
  unfold Taken
  induction presets generalizing registry with
  | nil => simp [insertAll]
  | cons preset rest ih =>
      rw [insertAll, List.foldl_cons, ← insertAll, ← ih, get?_insert, List.map_cons, List.mem_cons]
      by_cases same : preset.id = id
      · simp [same]
      · simp [same, Ne.symm same]

theorem insertAll_perm {others : List Preset} (distinct : (presets.map (·.id)).Nodup)
    (reordered : others.Perm presets) (id : UInt32) :
    (registry.insertAll others).get? id = (registry.insertAll presets).get? id := by
  have ids := reordered.map (·.id)
  by_cases member : id ∈ presets.map (·.id)
  · obtain ⟨preset, stored, rfl⟩ := List.mem_map.mp member
    rw [get?_insertAll_of_mem distinct stored, get?_insertAll_of_mem (ids.nodup_iff.mpr distinct)
      (reordered.mem_iff.mpr stored)]
  · rw [get?_insertAll_of_not_mem member, get?_insertAll_of_not_mem (mt ids.mem_iff.mp member)]

theorem presets_congr {other : Registry} (same : ∀ id, other.get? id = registry.get? id) :
    other.presets = registry.presets :=
  (Std.TreeMap.Equiv.of_forall_constGet?_eq same).values_eq

/-! ## One preset after another -/

theorem Loadable.perm {others : List Preset} (loadable : registry.Loadable presets)
    (reordered : others.Perm presets) : registry.Loadable others where
  site preset member := loadable.site preset (reordered.mem_iff.mp member)
  distinct := (reordered.map (·.id)).nodup_iff.mpr loadable.distinct
  unused preset member := loadable.unused preset (reordered.mem_iff.mp member)
  compiles preset member := loadable.compiles preset (reordered.mem_iff.mp member)

theorem loadable_cons_iff {preset : Preset} :
    registry.Loadable (preset :: presets) ↔
      registry.Admits preset ∧ (registry.insert preset).Loadable presets := by
  constructor
  · rintro ⟨site, distinct, unused, compiles⟩
    obtain ⟨here, site⟩ := List.forall_mem_cons.mp site
    obtain ⟨fresh, distinct⟩ := List.nodup_cons.mp distinct
    obtain ⟨hereUnused, unused⟩ := List.forall_mem_cons.mp unused
    obtain ⟨compiled, compiles⟩ := List.forall_mem_cons.mp compiles
    refine ⟨⟨here, hereUnused, compiled⟩, site, distinct, ?_, compiles⟩
    intro other member
    have apart : preset.id ≠ other.id := by
      intro same
      exact fresh (List.mem_map.mpr ⟨other, member, same.symm⟩)
    rw [get?_insert, if_neg apart]
    exact unused other member
  · rintro ⟨⟨here, hereUnused, compiled⟩, site, distinct, unused, compiles⟩
    have later : ∀ other ∈ presets, preset.id ≠ other.id ∧ registry.get? other.id = none := by
      intro other member
      have free := unused other member
      rw [get?_insert] at free
      split at free
      · cases free
      · rename_i apart
        exact ⟨apart, free⟩
    refine ⟨List.forall_mem_cons.mpr ⟨here, site⟩, List.nodup_cons.mpr ⟨?_, distinct⟩,
      List.forall_mem_cons.mpr ⟨hereUnused, fun other member => (later other member).2⟩,
      List.forall_mem_cons.mpr ⟨compiled, compiles⟩⟩
    intro repeated
    obtain ⟨other, member, same⟩ := List.mem_map.mp repeated
    exact (later other member).1 same.symm

theorem addAll_eq_ok_iff :
    registry.addAll presets = .ok larger ↔
      registry.Loadable presets ∧ larger = registry.insertAll presets := by
  induction presets generalizing registry with
  | nil =>
      have loadable : registry.Loadable [] := by constructor <;> simp
      simp [addAll, insertAll, loadable, pure, Except.pure, eq_comm]
  | cons preset rest ih =>
      rw [loadable_cons_iff, and_assoc, insertAll, List.foldl_cons, ← insertAll, ← ih, addAll,
        List.foldlM_cons]
      constructor
      · intro added
        cases joined : registry.extend preset with
        | error failure =>
            rw [joined] at added
            cases added
        | ok next =>
            rw [joined] at added
            obtain ⟨admits, rfl⟩ := extend_eq_ok_iff.mp joined
            exact ⟨admits, added⟩
      · rintro ⟨admits, added⟩
        rw [extend_eq_ok_iff.mpr ⟨admits, rfl⟩]
        exact added

/-! ## The first refusal -/

theorem addAll_eq_error_iff_loadable {failure : PresetError} :
    registry.addAll presets = .error failure ↔
      ∃ before preset after, presets = before ++ preset :: after ∧ registry.Loadable before ∧
        Refuses (registry.Taken before) preset failure := by
  have taken : ∀ before, registry.Taken before =
      fun id => (registry.insertAll before).get? id ≠ none :=
    fun before => funext fun id => propext (taken_iff id)
  simp only [taken, ← extend_eq_error_iff]
  rw [addAll, foldlM_eq_error_iff]
  constructor
  · rintro ⟨before, preset, after, middle, split, reached, last⟩
    obtain ⟨loadable, rfl⟩ := addAll_eq_ok_iff.mp reached
    exact ⟨before, preset, after, split, loadable, last⟩
  · rintro ⟨before, preset, after, split, loadable, last⟩
    exact ⟨before, preset, after, _, split, addAll_eq_ok_iff.mpr ⟨loadable, rfl⟩, last⟩

/-- Presets can join together exactly when each of them can join those before it. -/
theorem loadable_iff_accepted :
    registry.Loadable presets ↔ ∀ front earlier back, presets = front ++ earlier :: back →
      ∀ cause, ¬Refuses (registry.Taken front) earlier cause := by
  constructor
  · rintro loadable front earlier back rfl cause refuses
    have member : earlier ∈ front ++ earlier :: back := by simp
    cases refuses with
    | reserved reserved => exact UInt32.not_le.mpr reserved (loadable.site earlier member)
    | duplicate _ taken =>
        rcases taken with used | repeated
        · exact used (loadable.unused earlier member)
        · have distinct := loadable.distinct
          rw [List.map_append, List.map_cons] at distinct
          exact (List.nodup_append.mp distinct).2.2 _ repeated _ List.mem_cons_self rfl
    | invalid _ _ failed =>
        obtain ⟨book, compiled⟩ := loadable.compiles earlier member
        rw [compiled] at failed
        cases failed
  · intro accepted
    cases outcome : registry.addAll presets with
    | ok larger => exact (addAll_eq_ok_iff.mp outcome).1
    | error failure =>
        obtain ⟨before, preset, after, split, -, refuses⟩ :=
          addAll_eq_error_iff_loadable.mp outcome
        exact absurd refuses (accepted before preset after split failure)

theorem addAll_eq_error_iff {failure : PresetError} :
    registry.addAll presets = .error failure ↔
      ∃ before preset after, registry.FirstRefusal presets before preset after failure := by
  rw [addAll_eq_error_iff_loadable]
  constructor
  · rintro ⟨before, preset, after, split, loadable, refuses⟩
    exact ⟨before, preset, after, split, loadable_iff_accepted.mp loadable, refuses⟩
  · rintro ⟨before, preset, after, split, accepted, refuses⟩
    exact ⟨before, preset, after, split, loadable_iff_accepted.mpr accepted, refuses⟩

/-! ## Files -/

theorem load_of_readList? {text : String} (listed : Preset.readList? text = some presets) :
    registry.load text = registry.addAll presets := by
  rw [load, listed]

theorem load_of_unreadable {text : String} (unreadable : Preset.readList? text = none) :
    registry.load text = .error .malformed := by
  rw [load, unreadable]

theorem load_eq_ok_iff {text : String} :
    registry.load text = .ok larger ↔
      ∃ presets, Preset.readList? text = some presets ∧ registry.Loadable presets ∧
        larger = registry.insertAll presets := by
  cases listed : Preset.readList? text with
  | none => simp [load_of_unreadable listed]
  | some presets => simp [load_of_readList? listed, addAll_eq_ok_iff]

theorem load_reordered {text other : String} {reordered : List Preset}
    (loaded : registry.load text = .ok larger) (listed : Preset.readList? text = some presets)
    (otherListed : Preset.readList? other = some reordered) (perm : reordered.Perm presets) :
    ∃ same, registry.load other = .ok same ∧ (∀ id, same.get? id = larger.get? id) ∧
      same.presets = larger.presets := by
  rw [load_of_readList? listed, addAll_eq_ok_iff] at loaded
  obtain ⟨loadable, rfl⟩ := loaded
  have stored : ∀ id,
      (registry.insertAll reordered).get? id = (registry.insertAll presets).get? id :=
    insertAll_perm loadable.distinct perm
  refine ⟨registry.insertAll reordered, ?_, stored, presets_congr stored⟩
  rw [load_of_readList? otherListed, addAll_eq_ok_iff]
  exact ⟨loadable.perm perm, rfl⟩

theorem atStart_of_loaded {file : ByteArray} {text : String}
    (spelled : String.fromUTF8? file = some text) (loaded : builtin.load text = .ok larger) :
    atStart (some file) = larger := by
  simp only [atStart, Option.bind_some, spelled, loaded]

theorem atStart_of_refused {file : ByteArray} {text : String} {failure : PresetError}
    (spelled : String.fromUTF8? file = some text) (refused : builtin.load text = .error failure) :
    atStart (some file) = builtin := by
  simp only [atStart, Option.bind_some, spelled, refused]

/-- A file is taken in as a whole or not at all. It is taken in when its presets can join together,
and then their order does not matter. A file whose presets cannot join together is refused for the
first one that cannot join those before it, and a server that starts with it has the built-in
presets alone. -/
theorem load_all_or_none (registry : Registry) (text : String) :
    ((∃ larger, registry.load text = .ok larger) ↔
      ∃ presets, Preset.readList? text = some presets ∧ registry.Loadable presets) ∧
    (∀ larger presets, registry.load text = .ok larger → Preset.readList? text = some presets →
      (∀ preset ∈ presets, larger.get? preset.id = some preset) ∧
      (∀ id, id ∉ presets.map (·.id) → larger.get? id = registry.get? id) ∧
      ∀ other reordered, Preset.readList? other = some reordered → reordered.Perm presets →
        ∃ same, registry.load other = .ok same ∧ (∀ id, same.get? id = larger.get? id) ∧
          same.presets = larger.presets) ∧
    (∀ presets failure, Preset.readList? text = some presets →
      (registry.load text = .error failure ↔
        ∃ before preset after, registry.FirstRefusal presets before preset after failure)) ∧
    ∀ file, String.fromUTF8? file = some text →
      (∀ larger, builtin.load text = .ok larger → atStart (some file) = larger) ∧
      ∀ failure, builtin.load text = .error failure → atStart (some file) = builtin := by
  refine ⟨?_, ?_, ?_, ?_⟩
  · constructor
    · rintro ⟨larger, loaded⟩
      obtain ⟨presets, listed, loadable, -⟩ := load_eq_ok_iff.mp loaded
      exact ⟨presets, listed, loadable⟩
    · rintro ⟨presets, listed, loadable⟩
      exact ⟨_, load_eq_ok_iff.mpr ⟨presets, listed, loadable, rfl⟩⟩
  · intro larger presets loaded listed
    obtain ⟨loadable, value⟩ :=
      addAll_eq_ok_iff.mp ((load_of_readList? listed).symm.trans loaded)
    refine ⟨?_, ?_, fun other reordered => load_reordered loaded listed⟩
    · intro preset member
      rw [value, get?_insertAll_of_mem loadable.distinct member]
    · intro id absent
      rw [value, get?_insertAll_of_not_mem absent]
  · intro presets failure listed
    rw [load_of_readList? listed, addAll_eq_error_iff]
  · intro file spelled
    exact ⟨fun larger => atStart_of_loaded spelled, fun failure => atStart_of_refused spelled⟩

def siteFile : String :=
  "[\x7b\"id\": 150, \"name\": \"b\"\x7d, " ++
    "\x7b\"id\": 120, \"name\": \"a\", \"rules\": \"m: k\"\x7d]"

def sitePresets : List Preset :=
  [{ id := 150, name := "b" }, { id := 120, name := "a", rules := "m: k" }]

/-- The second preset has a number twice and bad rules, and the third one has a reserved number. -/
def faultyFile : String :=
  "[\x7b\"id\": 150, \"name\": \"b\"\x7d, " ++
    "\x7b\"id\": 150, \"name\": \"c\", \"rules\": \"m: q\"\x7d, " ++
    "\x7b\"id\": 42, \"name\": \"d\"\x7d]"

def faultyPresets : List Preset :=
  [{ id := 150, name := "b" }, { id := 150, name := "c", rules := "m: q" },
    { id := 42, name := "d" }]

theorem load_all_or_none_siteFile :
    Preset.readList? siteFile = some sitePresets ∧ builtin.Loadable sitePresets ∧
    (∃ larger, builtin.load siteFile = .ok larger ∧
      larger.get? 150 = some { id := 150, name := "b" } ∧ larger.get? 1 = builtin.get? 1) ∧
    Preset.readList? faultyFile = some faultyPresets ∧
    builtin.load faultyFile = .error (.duplicateId 150) ∧
    String.fromUTF8? faultyFile.toUTF8 = some faultyFile ∧
    atStart (some faultyFile.toUTF8) = builtin := by
  have listed : Preset.readList? siteFile = some sitePresets := by decide +kernel
  have faultyListed : Preset.readList? faultyFile = some faultyPresets := by decide +kernel
  have spelled : String.fromUTF8? faultyFile.toUTF8 = some faultyFile := by decide +kernel
  have loadable : builtin.Loadable sitePresets := by
    refine ⟨by decide, by decide, by decide +kernel, ?_⟩
    intro preset member
    apply isOk_iff.mp
    revert preset
    decide +kernel
  obtain ⟨accepted, stored, -, -⟩ := load_all_or_none builtin siteFile
  obtain ⟨larger, loaded⟩ := accepted.mpr ⟨sitePresets, listed, loadable⟩
  obtain ⟨joined, kept, -⟩ := stored larger sitePresets loaded listed
  obtain ⟨-, -, refused, started⟩ := load_all_or_none builtin faultyFile
  have first : builtin.FirstRefusal faultyPresets (sitePresets.take 1) faultyPresets[1]
      (faultyPresets.drop 2) (.duplicateId 150) := by
    refine ⟨rfl, ?_, .duplicate (by decide) (Or.inr (by decide))⟩
    apply loadable_iff_accepted.mp
    refine ⟨by decide, by decide, by decide +kernel, ?_⟩
    intro preset member
    exact loadable.compiles preset (List.mem_of_mem_take member)
  have failed := (refused _ _ faultyListed).mpr ⟨_, _, _, first⟩
  exact ⟨listed, loadable, ⟨larger, loaded, joined _ List.mem_cons_self, kept 1 (by decide)⟩,
    faultyListed, failed, spelled, (started _ spelled).2 _ failed⟩

end UnitCheck.Registry
