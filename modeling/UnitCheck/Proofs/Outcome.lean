import Mathlib.Data.List.Forall2

/-!
# Outcomes

Readers give a value or a failure, and run through a list until the first failure.

* `mapM_eq_ok_iff` and `mapM_eq_error_iff` are the two outcomes of reading each item of a list by
  itself.
* `foldlM_eq_error_iff` is the failure of a list whose items are taken in one after another.
-/

namespace UnitCheck

theorem map_eq_ok_iff {β γ ε : Type} {outcome : Except ε β} {f : β → γ} {result : γ} :
    outcome.map f = .ok result ↔ ∃ value, outcome = .ok value ∧ result = f value := by
  cases outcome <;> simp [Except.map, eq_comm]

@[simp] theorem isOk_ok {β ε : Type} (value : β) : (Except.ok value : Except ε β).isOk = true :=
  rfl

@[simp] theorem isOk_error {β ε : Type} (failure : ε) :
    (Except.error failure : Except ε β).isOk = false :=
  rfl

theorem isOk_iff {β ε : Type} {outcome : Except ε β} :
    outcome.isOk = true ↔ ∃ value, outcome = .ok value := by
  cases outcome <;> simp

theorem toOption_eq_some_iff {β ε : Type} {outcome : Except ε β} {value : β} :
    outcome.toOption = some value ↔ outcome = .ok value := by
  cases outcome <;> simp [Except.toOption]

theorem map_unit_eq_iff {β γ ε : Type} {first : Except ε β} {second : Except ε γ} :
    first.map (fun _ => ()) = second.map (fun _ => ()) ↔
      first.isOk = second.isOk ∧ ∀ failure, first = .error failure ↔ second = .error failure := by
  cases first <;> cases second <;> simp [Except.map]

/-- Outcomes with the same errors succeed together. -/
theorem map_unit_eq_of_errors {β γ ε : Type} {first : Except ε β} {second : Except ε γ}
    (errors : ∀ failure, first = .error failure ↔ second = .error failure) :
    first.map (fun _ => ()) = second.map fun _ => () := by
  cases first with
  | error failure =>
      rw [(errors failure).mp rfl]
      rfl
  | ok value =>
      cases second with
      | error failure => cases (errors failure).mpr rfl
      | ok other => rfl

theorem mapM_eq_ok_iff {β γ ε : Type} {f : β → Except ε γ} {items : List β} {results : List γ} :
    items.mapM f = .ok results ↔
      List.Forall₂ (fun item result => f item = .ok result) items results := by
  induction items generalizing results with
  | nil => simp [pure, Except.pure, eq_comm]
  | cons item rest ih =>
      rw [List.mapM_cons, List.forall₂_cons_left_iff]
      simp only [← ih]
      cases f item with
      | error failure => simp [bind, Except.bind]
      | ok first =>
          cases rest.mapM f with
          | error failure => simp [bind, Except.bind]
          | ok others => simp [bind, Except.bind, pure, Except.pure, eq_comm]

theorem mapM_eq_some_map {β γ : Type} {f : β → Option γ} {g : β → γ} {items : List β}
    (each : ∀ item ∈ items, f item = some (g item)) : items.mapM f = some (items.map g) := by
  induction items with
  | nil => rfl
  | cons item rest ih =>
      obtain ⟨here, others⟩ := List.forall_mem_cons.mp each
      rw [List.mapM_cons, here, ih others]
      rfl

theorem mapM_cons_eq_ok_iff {β γ ε : Type} {f : β → Except ε γ} {item : β} {rest : List β}
    {results : List γ} :
    (item :: rest).mapM f = .ok results ↔
      ∃ first others, f item = .ok first ∧ rest.mapM f = .ok others ∧
        results = first :: others := by
  simp only [mapM_eq_ok_iff, List.forall₂_cons_left_iff, exists_and_left]

theorem mapM_append_eq_ok_iff {β γ ε : Type} {f : β → Except ε γ} {front back : List β}
    {results : List γ} :
    (front ++ back).mapM f = .ok results ↔
      ∃ first second, front.mapM f = .ok first ∧ back.mapM f = .ok second ∧
        results = first ++ second := by
  induction front generalizing results with
  | nil => simp [pure, Except.pure]
  | cons item rest ih =>
      rw [List.cons_append, mapM_cons_eq_ok_iff]
      simp only [ih, mapM_cons_eq_ok_iff]
      constructor
      · rintro ⟨first, _, read, ⟨others, second, front, back, rfl⟩, rfl⟩
        exact ⟨first :: others, second, ⟨first, others, read, front, rfl⟩, back, rfl⟩
      · rintro ⟨_, second, ⟨first, others, read, front, rfl⟩, back, rfl⟩
        exact ⟨first, others ++ second, read, ⟨others, second, front, back, rfl⟩, rfl⟩

theorem mapM_eq_error_iff {β γ ε : Type} {f : β → Except ε γ} {items : List β} {failure : ε} :
    items.mapM f = .error failure ↔
      ∃ before item after, items = before ++ item :: after ∧
        (∀ earlier ∈ before, ∃ result, f earlier = .ok result) ∧ f item = .error failure := by
  constructor
  · intro failed
    induction items with
    | nil => cases failed
    | cons first rest ih =>
        rw [List.mapM_cons] at failed
        cases here : f first with
        | error cause =>
            rw [here] at failed
            cases failed
            exact ⟨[], first, rest, rfl, by simp, here⟩
        | ok value =>
            rw [here] at failed
            cases later : rest.mapM f with
            | ok values =>
                rw [later] at failed
                cases failed
            | error cause =>
                rw [later] at failed
                cases failed
                obtain ⟨before, item, after, rfl, fine, last⟩ := ih later
                exact ⟨first :: before, item, after, rfl,
                  List.forall_mem_cons.mpr ⟨⟨value, here⟩, fine⟩, last⟩
  · rintro ⟨before, item, after, rfl, fine, last⟩
    induction before with
    | nil =>
        rw [List.nil_append, List.mapM_cons, last]
        rfl
    | cons first rest ih =>
        obtain ⟨⟨value, here⟩, fine⟩ := List.forall_mem_cons.mp fine
        rw [List.cons_append, List.mapM_cons, here]
        change (do return value :: (← (rest ++ item :: after).mapM f)) = .error failure
        rw [ih fine]
        rfl

theorem foldlM_eq_error_iff {β γ ε : Type} {f : γ → β → Except ε γ} {items : List β} {start : γ}
    {failure : ε} :
    items.foldlM f start = .error failure ↔
      ∃ before item after middle, items = before ++ item :: after ∧
        before.foldlM f start = .ok middle ∧ f middle item = .error failure := by
  constructor
  · intro failed
    induction items generalizing start with
    | nil => cases failed
    | cons first rest ih =>
        rw [List.foldlM_cons] at failed
        cases here : f start first with
        | error cause =>
            rw [here] at failed
            cases failed
            exact ⟨[], first, rest, start, rfl, rfl, here⟩
        | ok next =>
            rw [here] at failed
            obtain ⟨before, item, after, middle, rfl, reached, last⟩ := ih failed
            refine ⟨first :: before, item, after, middle, rfl, ?_, last⟩
            rw [List.foldlM_cons, here]
            exact reached
  · rintro ⟨before, item, after, middle, rfl, reached, last⟩
    rw [List.foldlM_append, reached]
    change (item :: after).foldlM f middle = .error failure
    rw [List.foldlM_cons, last]
    rfl

theorem isOk_mapM_iff {β γ ε : Type} {f : β → Except ε γ} {items : List β} :
    (items.mapM f).isOk = true ↔ ∀ item ∈ items, (f item).isOk = true := by
  induction items with
  | nil => simp [pure, Except.pure]
  | cons item rest ih =>
      rw [List.mapM_cons, List.forall_mem_cons, ← ih]
      cases f item with
      | error failure => simp [bind, Except.bind]
      | ok first => cases rest.mapM f <;> simp [bind, Except.bind, pure, Except.pure]

end UnitCheck
