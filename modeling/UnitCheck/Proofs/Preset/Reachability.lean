import UnitCheck.Proofs.Preset.Registration
import UnitCheck.Proofs.Rules.Sequence

/-!
# Reachable registries

A registry starts without presets or with the built-in ones. Presets are offered to it singly,
taken or not, and from whole files. `Reachable.invariant` is the induction over its history: a file
adds its presets one after another and a refused preset changes nothing, so what is kept by a preset
that joins is kept by everything. Hence every reachable registry is `Sound`, and the rules of all
its presets compile.
-/

namespace UnitCheck.Registry

/-- The registries that presets have been offered to, singly or from files. -/
inductive Reachable : Registry → Prop
  | empty : Reachable empty
  | builtin : Reachable builtin
  | add {registry : Registry} :
      Reachable registry → ∀ preset, Reachable (registry.add preset).1
  | load {registry larger : Registry} {text : String} :
      Reachable registry → registry.load text = .ok larger → Reachable larger

theorem Reachable.join {registry : Registry} {preset : Preset} (reachable : registry.Reachable)
    (admits : registry.Admits preset) : (registry.insert preset).Reachable := by
  have added := reachable.add preset
  rwa [add_of_admits admits] at added

section Invariant

variable {kept : Registry → Prop}
  (step : ∀ registry preset, kept registry → registry.Admits preset →
    kept (registry.insert preset))

include step

theorem addAll_keeps {registry larger : Registry} {presets : List Preset}
    (holds : kept registry) (added : registry.addAll presets = .ok larger) :
    kept larger := by
  induction presets generalizing registry with
  | nil =>
      obtain rfl : registry = larger := Except.ok.inj added
      exact holds
  | cons preset rest ih =>
      rw [addAll, List.foldlM_cons] at added
      cases first : registry.extend preset with
      | error failure =>
          rw [first] at added
          cases added
      | ok next =>
          rw [first] at added
          obtain ⟨admits, rfl⟩ := extend_eq_ok_iff.mp first
          exact ih (step registry preset holds admits) added

theorem load_keeps {registry larger : Registry} {text : String} (holds : kept registry)
    (loaded : registry.load text = .ok larger) : kept larger := by
  unfold load at loaded
  split at loaded
  · exact addAll_keeps step holds loaded
  · cases loaded

/-- What holds at the start and is kept by one preset that joins holds of every reachable
registry. -/
theorem Reachable.invariant (initially : kept Registry.empty)
    (builtins : kept Registry.builtin) {registry : Registry}
    (reachable : registry.Reachable) : kept registry := by
  induction reachable with
  | empty => exact initially
  | builtin => exact builtins
  | add _ preset ih => exact add_keeps ih (step _ preset ih)
  | load _ loaded ih => exact load_keeps step ih loaded

end Invariant

theorem Reachable.sound {registry : Registry} (reachable : registry.Reachable) :
    registry.Sound :=
  reachable.invariant (fun _ _ sound admits => sound.join admits) sound_empty sound_builtin

/-! ## Rules of presets -/

/-- The rules of every preset compile. -/
def Compiles (registry : Registry) : Prop :=
  ∀ id preset, registry.get? id = some preset →
    ∃ book, RuleBook.ofRules (α := Float) preset.rules = .ok book

theorem compiles_empty : Compiles empty := by
  intro id preset found
  simp at found

theorem Compiles.insert {registry : Registry} (compiles : registry.Compiles) {preset : Preset}
    (compiled : ∃ book, RuleBook.ofRules (α := Float) preset.rules = .ok book) :
    (registry.insert preset).Compiles := by
  intro id other found
  rw [get?_insert] at found
  split at found
  · rw [← Option.some.inj found]
    exact compiled
  · exact compiles id other found

/-- Reading a text is enough to know that it compiles. It is read off its characters: a literal is
one step away from them for the kernel, and a long decoding away from its `toList`. -/
theorem exists_book_of_read {rules : String} {characters : List Char}
    (spelled : rules = String.ofList characters)
    (read : (((characters.splitOn ';').filter fun clause =>
      !clause.all Text.isBlank).mapM Clause.read).isOk = true) :
    ∃ book, RuleBook.ofRules (α := Float) rules = .ok book := by
  obtain ⟨clauses, clausesRead⟩ := isOk_iff.mp read
  refine ⟨RuleBook.empty.addAll clauses, RuleBook.extend_eq_ok_iff.mpr ⟨clauses, ?_, rfl⟩⟩
  rw [spelled, Clause.split, String.toList_ofList]
  exact clausesRead

set_option maxRecDepth 10000 in
theorem compiles_builtin : Compiles builtin := by
  apply Compiles.insert
  · apply compiles_empty.insert
    exact exists_book_of_read rfl (by decide +kernel)
  · exact exists_book_of_read rfl (by decide +kernel)

theorem Reachable.compiles {registry : Registry} (reachable : registry.Reachable) :
    registry.Compiles :=
  reachable.invariant (fun _ _ compiles admits => compiles.insert admits.compiles) compiles_empty
    compiles_builtin

end UnitCheck.Registry
