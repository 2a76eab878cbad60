import UnitCheck.Proofs.Preset.Reachability

/-!
# Registries only grow

Whatever presets and files are offered to a registry, it keeps what it has and takes in presets of
the site only, each under its own number and with rules that compile: `afterAll_grown`. A preset or
a file that is refused leaves it as it was, also when the file is refused for a preset in its
middle.

* `Extends` is what one registry keeps of another.
* `Grown` is what a registry has become after any offers.
-/

namespace UnitCheck

/-- What a registry is offered. -/
inductive PresetOffer where
  | preset (preset : Preset)
  | file (text : String)

namespace Registry

/-- The registry after an offer, and why it is refused if it is. Reading a file uses up a copy, so
whoever offers it still has the registry when the file is refused. -/
def offer (registry : Registry) : PresetOffer → Registry × Option PresetError
  | .preset preset => registry.add preset
  | .file text =>
    match registry.load text with
    | .ok larger => (larger, none)
    | .error failure => (registry, some failure)

def after (registry : Registry) (offered : PresetOffer) : Registry :=
  (registry.offer offered).1

def afterAll (registry : Registry) (offers : List PresetOffer) : Registry :=
  offers.foldl after registry

/-- Every preset of the one registry is in the other, unchanged. -/
def Extends (registry larger : Registry) : Prop :=
  ∀ id preset, registry.get? id = some preset → larger.get? id = some preset

/-- Every preset is one of the start or has a number of the site. -/
def SiteBeyond (start registry : Registry) : Prop :=
  ∀ id preset, registry.get? id = some preset → start.get? id = some preset ∨ 100 ≤ id

/-- What a registry is after offers to another one. -/
structure Grown (start registry : Registry) : Prop where
  keyed : ∀ id preset, registry.get? id = some preset → preset.id = id
  listed : ∀ preset, preset ∈ registry.presets ↔ registry.get? preset.id = some preset
  ascending : (registry.presets.map (·.id)).Pairwise (· < ·)
  site : start.SiteBeyond registry
  compiles : registry.Compiles

/-! ## The order of presets -/

theorem presets_eq (registry : Registry) :
    registry.presets = registry.entries.toList.map Prod.snd := by
  have folded : registry.presets = registry.entries.foldr (fun _ preset rest => preset :: rest) [] :=
    rfl
  rw [folded, Std.TreeMap.foldr_eq_foldr_toList]
  induction registry.entries.toList with
  | nil => rfl
  | cons entry rest ih => simp [ih]

theorem mem_toList_iff {registry : Registry} {id : UInt32} {preset : Preset} :
    (id, preset) ∈ registry.entries.toList ↔ registry.get? id = some preset :=
  Std.TreeMap.mem_toList_iff_getElem?_eq_some

theorem Sound.mem_presets {registry : Registry} (sound : registry.Sound) (preset : Preset) :
    preset ∈ registry.presets ↔ registry.get? preset.id = some preset := by
  rw [presets_eq, List.mem_map]
  constructor
  · rintro ⟨⟨id, stored⟩, member, rfl⟩
    have found := mem_toList_iff.mp member
    rwa [sound.keyed id stored found]
  · intro found
    exact ⟨(preset.id, preset), mem_toList_iff.mpr found, rfl⟩

theorem Sound.ascending {registry : Registry} (sound : registry.Sound) :
    (registry.presets.map (·.id)).Pairwise (· < ·) := by
  have ids : registry.presets.map (·.id) = registry.entries.keys := by
    rw [presets_eq, List.map_map, ← Std.TreeMap.map_fst_toList_eq_keys]
    exact List.map_congr_left fun entry member =>
      sound.keyed entry.1 entry.2 (mem_toList_iff.mp member)
  rw [ids]
  exact Std.TreeMap.ordered_keys.imp fun smaller => Std.compare_eq_lt.mp smaller

/-! ## One offer -/

theorem Extends.refl (registry : Registry) : registry.Extends registry :=
  fun _ _ found => found

theorem Extends.trans {first second third : Registry} (left : first.Extends second)
    (right : second.Extends third) : first.Extends third :=
  fun id preset found => right id preset (left id preset found)

theorem Admits.extends_insert {registry : Registry} {preset : Preset}
    (admits : registry.Admits preset) : registry.Extends (registry.insert preset) := by
  intro id other found
  rw [get?_insert, if_neg]
  · exact found
  · rintro rfl
    cases admits.unused.symm.trans found

theorem offer_of_refused {registry : Registry} {offered : PresetOffer} {failure : PresetError}
    (refused : (registry.offer offered).2 = some failure) :
    (registry.offer offered).1 = registry := by
  cases offered with
  | preset preset => exact add_of_refused refused
  | file text =>
      simp only [offer] at refused ⊢
      split
      · rename_i loaded
        rw [loaded] at refused
        cases refused
      · rfl

section Invariant

variable {kept : Registry → Prop}
  (step : ∀ registry preset, kept registry → registry.Admits preset →
    kept (registry.insert preset))

include step

theorem after_keeps {registry : Registry} (holds : kept registry) (offered : PresetOffer) :
    kept (registry.after offered) := by
  cases offered with
  | preset preset => exact add_keeps holds (step registry preset holds)
  | file text =>
      simp only [after, offer]
      split
      · rename_i loaded
        exact load_keeps step holds loaded
      · exact holds

theorem afterAll_keeps {registry : Registry} (holds : kept registry) (offers : List PresetOffer) :
    kept (registry.afterAll offers) := by
  induction offers generalizing registry with
  | nil => exact holds
  | cons offered rest ih => exact ih (after_keeps step holds offered)

end Invariant

/-! ## Any offers -/

theorem extends_afterAll (registry : Registry) (offers : List PresetOffer) :
    registry.Extends (registry.afterAll offers) :=
  afterAll_keeps (fun _ _ extended admits => extended.trans admits.extends_insert)
    (.refl registry) offers

theorem SiteBeyond.join {start registry : Registry} {preset : Preset}
    (site : start.SiteBeyond registry) (admits : registry.Admits preset) :
    start.SiteBeyond (registry.insert preset) := by
  intro id other found
  rw [get?_insert] at found
  split at found
  · rename_i same
    exact Or.inr (same ▸ admits.site)
  · exact site id other found

theorem siteBeyond_afterAll (start : Registry) (offers : List PresetOffer) :
    start.SiteBeyond (start.afterAll offers) :=
  afterAll_keeps (fun _ _ site admits => site.join admits) (fun _ _ found => Or.inl found) offers

theorem Reachable.afterAll {registry : Registry} (reachable : registry.Reachable)
    (offers : List PresetOffer) : (registry.afterAll offers).Reachable :=
  afterAll_keeps (fun _ _ reachable admits => reachable.join admits) reachable offers

theorem grown_afterAll {start : Registry} (reachable : start.Reachable)
    (offers : List PresetOffer) : Grown start (start.afterAll offers) := by
  have sound := (reachable.afterAll offers).sound
  exact ⟨sound.keyed, sound.mem_presets, sound.ascending, siteBeyond_afterAll start offers,
    (reachable.afterAll offers).compiles⟩

theorem afterAll_append (registry : Registry) (offers more : List PresetOffer) :
    registry.afterAll (offers ++ more) = (registry.afterAll offers).afterAll more :=
  List.foldl_append

theorem reachable_of_initial {start : Registry} (initial : start = .empty ∨ start = .builtin) :
    start.Reachable := by
  rcases initial with rfl | rfl
  · exact .empty
  · exact .builtin

/-- A registry that starts empty or with the built-in presets stays in order whatever it is offered:
it keeps every preset for good, and a preset or a file that it refuses leaves it as it was. -/
theorem afterAll_grown {start : Registry} (initial : start = .empty ∨ start = .builtin)
    (offers : List PresetOffer) :
    Grown start (start.afterAll offers) ∧
    (∀ more, (start.afterAll offers).Extends (start.afterAll (offers ++ more))) ∧
    (∀ preset failure, ((start.afterAll offers).add preset).2 = some failure →
      ((start.afterAll offers).add preset).1 = start.afterAll offers) ∧
    ∀ offered failure, ((start.afterAll offers).offer offered).2 = some failure →
      start.afterAll (offers ++ [offered]) = start.afterAll offers := by
  refine ⟨grown_afterAll (reachable_of_initial initial) offers, ?_, ?_, ?_⟩
  · intro more
    rw [afterAll_append]
    exact extends_afterAll _ more
  · intro preset failure refused
    exact add_of_refused refused
  · intro offered failure refused
    rw [afterAll_append]
    exact offer_of_refused refused

/-- The second and the third of these are refused, and so is the first file, which has a number
twice. -/
def siteOffers : List PresetOffer :=
  [.preset { id := 150, name := "lengths", rules := "m: k c" },
    .preset { id := 150, name := "times", rules := "s: m" },
    .preset { id := 42, name := "reserved" },
    .file "[\x7b\"id\": 110, \"name\": \"a\"\x7d, \x7b\"id\": 110, \"name\": \"b\"\x7d]",
    .file "[\x7b\"id\": 120, \"name\": \"feet\", \"rules\": \"ft = 12 in\"\x7d]"]

theorem afterAll_grown_siteOffers :
    (builtin.afterAll siteOffers).presets.map (·.id) = [0, 1, 120, 150] ∧
    Grown builtin (builtin.afterAll siteOffers) ∧
    (builtin.afterAll siteOffers).get? 150 =
      some { id := 150, name := "lengths", rules := "m: k c" } ∧
    ((builtin.afterAll siteOffers).add { id := 42, name := "reserved" }).1 =
      builtin.afterAll siteOffers := by
  obtain ⟨grown, -, refused, -⟩ := afterAll_grown (Or.inr rfl) siteOffers
  obtain ⟨-, kept, -, -⟩ := afterAll_grown (Or.inr rfl) (siteOffers.take 1)
  refine ⟨by decide +kernel, grown, ?_, refused _ (.reservedId 42) rfl⟩
  exact kept (siteOffers.drop 1) 150 _ (by decide +kernel)

end Registry

end UnitCheck
