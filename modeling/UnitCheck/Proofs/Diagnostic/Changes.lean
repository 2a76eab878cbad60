import Mathlib.Data.List.DropRight
import UnitCheck.Diagnosis

/-!
# Changes of a diagnostic

Whoever passes a diagnostic on may change it: a conversion sets the clause, the registry adds a
note, whoever reads a setting adds its name. `applyAll_components` says what any sequence of such
changes comes to. The last change of a component wins, notes pile up from the last context on, and
changes of different components can be made in either order.

Each component goes its own way: `get_apply` is one change and `get_applyAll` a run, as a fold over
the component alone. `get_applyAll_of_replaces` and `notes_applyAll` are what such a fold comes to,
and `applyAll_eq_of_filter_eq` says that only the order within each component matters. So the
reports of malformed rules keep what they show, whatever is added to them on the way up
(`RuleError.clause?_notes_applyAll`).
-/

namespace UnitCheck

namespace Diagnostic

/-- What the functions that change a diagnostic can be asked for. -/
inductive Change where
  | suggestion (text : String)
  | context (place : ErrorContext)
  | field (setting : String)
  | clause (text : String)
  | note (text : String)
  | severity (level : Severity)
deriving DecidableEq, Repr

def apply (d : Diagnostic) : Change → Diagnostic
  | .suggestion text => d.withSuggestion text
  | .context place => d.withContext place
  | .field setting => d.inField setting
  | .clause text => d.withClause text
  | .note text => d.withNote text
  | .severity level => d.withSeverity level

def applyAll (d : Diagnostic) (changes : List Change) : Diagnostic :=
  changes.foldl apply d

/-! ## Components -/

inductive Component where
  | suggestion
  | severity
  | field
  | clause
  | notes
deriving DecidableEq, Repr

abbrev Component.Value : Component → Type
  | .suggestion => Option String
  | .severity => Severity
  | .field => Option String
  | .clause => Option String
  | .notes => List String

def clause? (d : Diagnostic) : Option String :=
  d.context.bind (·.clause)

def notes (d : Diagnostic) : List String :=
  (d.context.map (·.notes)).getD []

def get (d : Diagnostic) : (component : Component) → component.Value
  | .suggestion => d.suggestion
  | .severity => d.severity
  | .field => d.field?
  | .clause => d.clause?
  | .notes => d.notes

/-- Diagnostics with the same texts are equal when all components are and both or none have a
context. The last does not follow, since an empty context has the components of none. -/
theorem eq_of_get_eq {d e : Diagnostic} (code : d.code = e.code) (message : d.message = e.message)
    (placed : d.context = none ↔ e.context = none)
    (same : ∀ component, d.get component = e.get component) : d = e := by
  obtain ⟨dCode, dMessage, dSuggestion, dContext, dSeverity⟩ := d
  obtain ⟨eCode, eMessage, eSuggestion, eContext, eSeverity⟩ := e
  obtain rfl : dCode = eCode := code
  obtain rfl : dMessage = eMessage := message
  obtain rfl : dSuggestion = eSuggestion := same .suggestion
  obtain rfl : dSeverity = eSeverity := same .severity
  congr 1
  cases dContext with
  | none => exact (placed.mp rfl).symm
  | some context =>
      cases eContext with
      | none => cases placed.mpr rfl
      | some other =>
          obtain ⟨field, clause, notes⟩ := context
          obtain ⟨otherField, otherClause, otherNotes⟩ := other
          obtain rfl : field = otherField := same .field
          obtain rfl : clause = otherClause := same .clause
          obtain rfl : notes = otherNotes := same .notes
          rfl

/-! ## What a change sets -/

namespace Change

/-- The components that a change sets. A context brings a setting, a clause and notes of its own,
even where it holds none. -/
def components : Change → List Component
  | .suggestion _ => [.suggestion]
  | .context _ => [.field, .clause, .notes]
  | .field _ => [.field]
  | .clause _ => [.clause]
  | .note _ => [.notes]
  | .severity _ => [.severity]

/-- Whether a change leaves a context behind. -/
def places : Change → Bool
  | .suggestion _ => false
  | .context _ => true
  | .field _ => true
  | .clause _ => true
  | .note _ => true
  | .severity _ => false

def suggestion? : Change → Option (Option String)
  | .suggestion text => some (some text)
  | _ => none

def severity? : Change → Option Severity
  | .severity level => some level
  | _ => none

def context? : Change → Option ErrorContext
  | .context place => some place
  | _ => none

def field? : Change → Option (Option String)
  | .context place => some place.field
  | .field setting => some (some setting)
  | _ => none

def clause? : Change → Option (Option String)
  | .context place => some place.clause
  | .clause text => some (some text)
  | _ => none

def note? : Change → Option String
  | .note text => some text
  | _ => none

/-- What a change makes of the value of a component. -/
def revise : Change → (component : Component) → component.Value → component.Value
  | .suggestion text, .suggestion, _ => some text
  | .severity level, .severity, _ => level
  | .context place, .field, _ => place.field
  | .field setting, .field, _ => some setting
  | .context place, .clause, _ => place.clause
  | .clause text, .clause, _ => some text
  | .context place, .notes, _ => place.notes
  | .note text, .notes, notes => notes ++ [text]
  | _, _, value => value

theorem revise_suggestion (change : Change) (value : Option String) :
    change.revise .suggestion value = change.suggestion?.getD value := by
  cases change <;> rfl

theorem revise_severity (change : Change) (value : Severity) :
    change.revise .severity value = change.severity?.getD value := by
  cases change <;> rfl

theorem revise_field (change : Change) (value : Option String) :
    change.revise .field value = change.field?.getD value := by
  cases change <;> rfl

theorem revise_clause (change : Change) (value : Option String) :
    change.revise .clause value = change.clause?.getD value := by
  cases change <;> rfl

theorem revise_of_notMem {change : Change} {component : Component}
    (other : component ∉ change.components) (value : component.Value) :
    change.revise component value = value := by
  unfold revise
  split
  case h_9 => rfl
  all_goals simp [components] at other

theorem context?_eq_none {change : Change} (kept : change.clause? = none) :
    change.context? = none := by
  cases change with
  | context place => cases kept
  | _ => rfl

theorem places_iff {change : Change} :
    change.places = true ↔
      ∃ component ∈ [Component.field, .clause, .notes], component ∈ change.components := by
  cases change <;> simp [places, components]

end Change

/-- The last of the values that changes set. -/
def lastSet {β : Type} (set? : Change → Option β) (changes : List Change) : Option β :=
  (changes.filterMap set?).getLast?

/-- The changes after the last one that replaces the context, all if there is none. -/
def sinceContext (changes : List Change) : List Change :=
  changes.rtakeWhile fun change => change.context?.isNone

/-! ## Runs of changes -/

theorem get_apply (d : Diagnostic) (change : Change) (component : Component) :
    (d.apply change).get component = change.revise component (d.get component) := by
  -- The change of a context starts from an empty one if there is none.
  obtain ⟨code, message, suggestion, context, severity⟩ := d
  cases component <;> cases change <;> cases context <;> rfl

theorem get_applyAll (d : Diagnostic) (changes : List Change) (component : Component) :
    (d.applyAll changes).get component =
      changes.foldl (fun value change => change.revise component value) (d.get component) :=
  (List.foldl_hom (get · component) fun d change => (d.get_apply change component).symm).symm

theorem texts_applyAll (d : Diagnostic) (changes : List Change) :
    (d.applyAll changes).code = d.code ∧ (d.applyAll changes).message = d.message := by
  induction changes generalizing d with
  | nil => exact ⟨rfl, rfl⟩
  | cons change rest ih =>
      obtain ⟨code, message⟩ := ih (d.apply change)
      cases change <;> exact ⟨code, message⟩

theorem context_apply_eq_none_iff (d : Diagnostic) (change : Change) :
    (d.apply change).context = none ↔ d.context = none ∧ change.places = false := by
  cases change <;>
    simp [apply, withSuggestion, withContext, inField, withClause, withNote, withSeverity,
      mapContext, Change.places]

theorem context_applyAll_eq_none_iff (d : Diagnostic) (changes : List Change) :
    (d.applyAll changes).context = none ↔
      d.context = none ∧ ∀ change ∈ changes, change.places = false := by
  induction changes generalizing d with
  | nil => simp [applyAll]
  | cons change rest ih =>
      rw [List.forall_mem_cons, ← and_assoc, ← context_apply_eq_none_iff]
      exact ih (d.apply change)

/-! ## What a component comes to -/

theorem lastSet_concat {β : Type} (set? : Change → Option β) (changes : List Change)
    (change : Change) :
    lastSet set? (changes ++ [change]) = (set? change).or (lastSet set? changes) := by
  unfold lastSet
  rw [List.filterMap_append, List.getLast?_append]
  cases value : set? change <;> simp [value]

theorem lastSet_eq_none {β : Type} {set? : Change → Option β} {changes : List Change}
    (unset : ∀ change ∈ changes, set? change = none) : lastSet set? changes = none := by
  rw [lastSet, List.filterMap_eq_nil_iff.mpr unset]
  rfl

theorem sinceContext_eq_self {changes : List Change}
    (inPlace : ∀ change ∈ changes, change.context? = none) : sinceContext changes = changes :=
  List.rtakeWhile_eq_self_iff.mpr fun change member => by rw [inPlace change member]; rfl

/-- A component that changes replace as a whole has the value set last. -/
theorem get_applyAll_of_replaces (d : Diagnostic) (changes : List Change) (component : Component)
    {set? : Change → Option component.Value}
    (replaces : ∀ change value, Change.revise change component value = (set? change).getD value) :
    (d.applyAll changes).get component = (lastSet set? changes).getD (d.get component) := by
  rw [get_applyAll]
  -- The last change decides, so the run is taken apart from its end.
  induction changes using List.reverseRecOn with
  | nil => rfl
  | append_singleton changes change ih =>
      rw [List.foldl_concat, ih, replaces, lastSet_concat]
      cases set? change <;> rfl

/-- The notes are those of the last context and those added since. -/
theorem notes_applyAll (d : Diagnostic) (changes : List Change) :
    (d.applyAll changes).notes =
      ((lastSet Change.context? changes).map (·.notes)).getD d.notes ++
        (sinceContext changes).filterMap Change.note? := by
  refine (d.get_applyAll changes .notes).trans ?_
  induction changes using List.reverseRecOn with
  | nil => exact (List.append_nil d.notes).symm
  | append_singleton changes change ih =>
      rw [List.foldl_concat, ih, lastSet_concat]
      cases change with
      | context place => simp [sinceContext, Change.context?, Change.revise]
      | _ => simp [sinceContext, Change.context?, Change.revise, Change.note?]

theorem foldl_revise_filter (component : Component) (changes : List Change)
    (value : component.Value) :
    (changes.filter (component ∈ ·.components)).foldl
        (fun value change => change.revise component value) value =
      changes.foldl (fun value change => change.revise component value) value := by
  induction changes generalizing value with
  | nil => rfl
  | cons change rest ih =>
      by_cases touched : component ∈ change.components
      · rw [List.filter_cons_of_pos (by simpa using touched)]
        exact ih _
      · rw [List.filter_cons_of_neg (by simpa using touched), List.foldl_cons,
          Change.revise_of_notMem touched]
        exact ih value

/-! ## Order -/

theorem forall_places_eq_false_iff (changes : List Change) :
    (∀ change ∈ changes, change.places = false) ↔
      ∀ component ∈ [Component.field, .clause, .notes],
        changes.filter (component ∈ ·.components) = [] := by
  simp only [← Bool.not_eq_true, Change.places_iff, List.filter_eq_nil_iff, decide_eq_true_eq]
  constructor
  · intro unplaced component inContext change member touched
    exact unplaced change member ⟨component, inContext, touched⟩
  · rintro untouched change member ⟨component, inContext, touched⟩
    exact untouched component inContext change member touched

/-- Only the order within each component matters. -/
theorem applyAll_eq_of_filter_eq (d : Diagnostic) {changes others : List Change}
    (agree : ∀ component : Component, changes.filter (component ∈ ·.components) =
      others.filter (component ∈ ·.components)) :
    d.applyAll changes = d.applyAll others := by
  obtain ⟨code, message⟩ := d.texts_applyAll changes
  obtain ⟨otherCode, otherMessage⟩ := d.texts_applyAll others
  refine eq_of_get_eq (code.trans otherCode.symm) (message.trans otherMessage.symm) ?_ ?_
  · rw [context_applyAll_eq_none_iff, context_applyAll_eq_none_iff, forall_places_eq_false_iff,
      forall_places_eq_false_iff]
    simp only [agree]
  · intro component
    rw [get_applyAll, get_applyAll, ← foldl_revise_filter, agree, foldl_revise_filter]

/-- Changes that set nothing in common can be made in either order. -/
theorem applyAll_swap (d : Diagnostic) (before after : List Change) {first second : Change}
    (apart : first.components.Disjoint second.components) :
    d.applyAll (before ++ first :: second :: after) =
      d.applyAll (before ++ second :: first :: after) := by
  apply applyAll_eq_of_filter_eq
  intro component
  rw [List.filter_append, List.filter_append]
  congr 1
  by_cases touched : component ∈ first.components
  · have untouched : component ∉ second.components := apart touched
    simp [touched, untouched]
  · simp [List.filter_cons, touched]

/-- Any sequence of changes keeps the code and the message. The last change of the suggestion, of
the severity, of the setting and of the clause wins, and the notes are those of the last context and
those added since. There is no context exactly if there was none and no change placed one. Changes
of different components can be made in either order, wherever they stand. -/
theorem applyAll_components (d : Diagnostic) (changes : List Change) :
    (d.applyAll changes).code = d.code ∧
    (d.applyAll changes).message = d.message ∧
    (d.applyAll changes).suggestion =
      (lastSet Change.suggestion? changes).getD d.suggestion ∧
    (d.applyAll changes).severity = (lastSet Change.severity? changes).getD d.severity ∧
    (d.applyAll changes).field? = (lastSet Change.field? changes).getD d.field? ∧
    (d.applyAll changes).clause? = (lastSet Change.clause? changes).getD d.clause? ∧
    (d.applyAll changes).notes =
      ((lastSet Change.context? changes).map (·.notes)).getD d.notes ++
        (sinceContext changes).filterMap Change.note? ∧
    ((d.applyAll changes).context = none ↔
      d.context = none ∧ ∀ change ∈ changes, change.places = false) ∧
    ∀ (before after : List Change) (first second : Change),
      first.components.Disjoint second.components →
      d.applyAll (before ++ first :: second :: after) =
        d.applyAll (before ++ second :: first :: after) := by
  obtain ⟨code, message⟩ := d.texts_applyAll changes
  refine ⟨code, message, ?_, ?_, ?_, ?_, d.notes_applyAll changes,
    d.context_applyAll_eq_none_iff changes,
    fun before after first second => d.applyAll_swap before after⟩
  · exact d.get_applyAll_of_replaces changes .suggestion Change.revise_suggestion
  · exact d.get_applyAll_of_replaces changes .severity Change.revise_severity
  · exact d.get_applyAll_of_replaces changes .field Change.revise_field
  · exact d.get_applyAll_of_replaces changes .clause Change.revise_clause

/-- Changes among which a new context takes the clause and the first note away. -/
def relocation : List Change :=
  [.note "while loading", .context { field := some "rules", notes := ["moved"] },
    .note "while checking", .severity .fatal, .field "rule_id"]

theorem applyAll_components_relocation :
    (Change.note "while checking").components.Disjoint (Change.severity .fatal).components ∧
      ((unknownPrefix "x").applyAll relocation).severity = .fatal ∧
      ((unknownPrefix "x").applyAll relocation).field? = some "rule_id" ∧
      ((unknownPrefix "x").applyAll relocation).clause? = none ∧
      ((unknownPrefix "x").applyAll relocation).notes = ["moved", "while checking"] ∧
      ((unknownPrefix "x").applyAll relocation).context ≠ none ∧
      (unknownPrefix "x").applyAll relocation =
        (unknownPrefix "x").applyAll
          [.note "while loading", .context { field := some "rules", notes := ["moved"] },
            .severity .fatal, .note "while checking", .field "rule_id"] := by
  obtain ⟨-, -, -, severity, field, clause, notes, placed, swap⟩ :=
    applyAll_components (unknownPrefix "x") relocation
  have apart :
      (Change.note "while checking").components.Disjoint (Change.severity .fatal).components := by
    simp [Change.components]
  have reordered := swap [.note "while loading",
    .context { field := some "rules", notes := ["moved"] }] [.field "rule_id"] _ _ apart
  refine ⟨apart, severity, field, clause, notes, ?_, reordered⟩
  intro absent
  cases (placed.mp absent).1

end Diagnostic

/-! ## Reports of rules on their way up -/

def RuleError.text : RuleError → String
  | .unknownPrefix word => word
  | .invalidUnitName unit => unit
  | .malformedTerm term => term
  | .prefixSyntax clause => clause

theorem RuleError.clause?_diagnostic (failure : RuleError) :
    failure.diagnostic.clause? = some failure.text := by
  cases failure <;> rfl

theorem RuleError.notes_diagnostic (failure : RuleError) : failure.diagnostic.notes = [] := by
  cases failure <;> rfl

/-- A report of malformed rules goes on showing the text that is malformed, and holds the notes
added to it in order, as long as no one sets another clause or another context. -/
theorem RuleError.clause?_notes_applyAll (failure : RuleError) (changes : List Diagnostic.Change)
    (upward : ∀ change ∈ changes, change.clause? = none) :
    (failure.diagnostic.applyAll changes).clause? = some failure.text ∧
      (failure.diagnostic.applyAll changes).notes =
        changes.filterMap Diagnostic.Change.note? := by
  have inPlace : ∀ change ∈ changes, change.context? = none := fun change member =>
    Diagnostic.Change.context?_eq_none (upward change member)
  constructor
  · refine (failure.diagnostic.get_applyAll_of_replaces changes .clause
      Diagnostic.Change.revise_clause).trans ?_
    rw [Diagnostic.lastSet_eq_none upward]
    exact failure.clause?_diagnostic
  · rw [Diagnostic.notes_applyAll, Diagnostic.lastSet_eq_none inPlace,
      Diagnostic.sinceContext_eq_self inPlace, failure.notes_diagnostic]
    rfl

/-- The report of a preset with malformed rules shows the malformed text and names the preset, in
whatever setting it is placed. -/
theorem PresetError.inField_diagnostic_invalidRules (id : UInt32) (cause : RuleError)
    (field : String) :
    ((invalidRules id cause).diagnostic.inField field).clause? = some cause.text ∧
      ((invalidRules id cause).diagnostic.inField field).notes =
        [(invalidRules id cause).message] :=
  cause.clause?_notes_applyAll [.note _, .field field] (by simp [Diagnostic.Change.clause?])

end UnitCheck
