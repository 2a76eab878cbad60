import UnitCheck.Proofs.Session.Verdicts

/-!
# Layers

Which operations touch which layer of a session, and what a failure leaves behind.

* `Compiled` lists what compiling can come to: the preset rules are refused, or the question rules
  are, or both books are built. `check_cases` reduces checking to it.
* `respond_presetBook_eq_iff` and `respond_mergedBook_eq_iff` say when one operation keeps a book,
  `run_presetBook_eq` and `run_mergedBook_eq` say it of a run.
* `Reachable.layers` puts this together with the texts, which only change when they are set.
-/

namespace UnitCheck

namespace SessionCommand

/-- The command selects another preset than the one with the given number. -/
def Replaces (current : UInt32) : SessionCommand → Prop
  | .selectPreset id _ => id ≠ current
  | _ => False

/-- The command sets the question rules. -/
def Rewrites : SessionCommand → Prop
  | .setQuestionRules _ => True
  | _ => False

end SessionCommand

namespace Session

/-- The sessions that a client can bring about. -/
inductive Reachable : Session → Prop where
  | start : Reachable start
  | respond {session : Session} : session.Reachable → ∀ command : SessionCommand,
      Reachable (session.respond command).1

theorem Reachable.coherent {session : Session} (reachable : session.Reachable) :
    session.Coherent := by
  induction reachable with
  | start => exact coherent_start
  | respond _ command ih => exact (respond_eq ih command).2.1

theorem Reachable.run {session : Session} (reachable : session.Reachable)
    (commands : List SessionCommand) : (session.run commands).1.Reachable := by
  induction commands generalizing session with
  | nil => exact reachable
  | cons command rest ih => exact ih (reachable.respond command)

/-! ## Compiling -/

/-- What compiling a session leaves and gives. -/
inductive Compiled (session : Session) : Session × Except RuleError (RuleBook Float) → Prop where
  | presetRefused {cause : RuleError} :
      RuleBook.ofRules (α := Float) session.presetRules = .error cause →
      session.presetBook = none → session.mergedBook = none →
      Compiled session (session, .error cause)
  | questionRefused {base : RuleBook Float} {cause : RuleError} :
      RuleBook.ofRules session.presetRules = .ok base →
      base.extend session.questionRules = .error cause → session.mergedBook = none →
      Compiled session ({ session with presetBook := some base }, .error cause)
  | built {base book : RuleBook Float} :
      RuleBook.ofRules session.presetRules = .ok base →
      base.extend session.questionRules = .ok book →
      Compiled session
        ({ session with presetBook := some base, mergedBook := some book }, .ok book)

variable {session : Session}

theorem Coherent.merged_eq (coherent : session.Coherent) {base book : RuleBook Float}
    (built : RuleBook.ofRules session.presetRules = .ok base)
    (kept : session.mergedBook = some book) : base.extend session.questionRules = .ok book := by
  obtain ⟨other, otherKept, extended⟩ := coherent.merged book kept
  obtain rfl : base = other := Except.ok.inj (built.symm.trans (coherent.preset other otherKept))
  exact extended

theorem Coherent.presetBook_eq_none (coherent : session.Coherent) {cause : RuleError}
    (refused : RuleBook.ofRules (α := Float) session.presetRules = .error cause) :
    session.presetBook = none := by
  cases kept : session.presetBook with
  | none => rfl
  | some base => cases refused.symm.trans (coherent.preset base kept)

theorem compiled_of_coherent (coherent : session.Coherent) : Compiled session session.compile := by
  unfold compile
  rw [compilePreset_eq coherent]
  cases built : RuleBook.ofRules (α := Float) session.presetRules with
  | error cause =>
      have absent := coherent.presetBook_eq_none built
      refine .presetRefused built absent ?_
      cases kept : session.mergedBook with
      | none => rfl
      | some book =>
          obtain ⟨base, baseKept, -⟩ := coherent.merged book kept
          cases absent.symm.trans baseKept
  | ok base =>
      simp only
      rw [compileQuestion_eq (coherent.keepPreset built) rfl]
      cases extended : base.extend session.questionRules with
      | ok book => exact .built built extended
      | error cause =>
          refine .questionRefused built extended ?_
          cases kept : session.mergedBook with
          | none => rfl
          | some book => cases extended.symm.trans (coherent.merged_eq built kept)

theorem compile_keeps (coherent : session.Coherent) :
    (∀ base, session.presetBook = some base → session.compile.1.presetBook = some base) ∧
      ∀ book, session.mergedBook = some book → session.compile.1.mergedBook = some book := by
  have compiled := compiled_of_coherent coherent
  generalize session.compile = step at compiled ⊢
  -- A book that is built from the texts in force is the one that was kept.
  cases compiled with
  | presetRefused refused absent unmerged => exact ⟨fun _ => id, fun _ => id⟩
  | @questionRefused base cause built refused unmerged =>
      refine ⟨fun other kept => ?_, fun _ => id⟩
      rw [Except.ok.inj (built.symm.trans (coherent.preset other kept))]
  | @built base book built extended =>
      refine ⟨fun other kept => ?_, fun other kept => ?_⟩
      · rw [Except.ok.inj (built.symm.trans (coherent.preset other kept))]
      · rw [Except.ok.inj (extended.symm.trans (coherent.merged_eq built kept))]

theorem compile_of_error (coherent : session.Coherent) {cause : RuleError}
    (failed : session.compile.2 = .error cause) :
    session.compile.1.mergedBook = none ∧
      (session.compile.1.presetBook.isSome = true ↔
        ∃ base, RuleBook.ofRules (α := Float) session.presetRules = .ok base) := by
  have compiled := compiled_of_coherent coherent
  generalize session.compile = step at compiled failed ⊢
  cases compiled with
  | presetRefused refused absent unmerged => simp [refused, absent, unmerged]
  | questionRefused built refused unmerged => simp [built, unmerged]
  | built built extended => cases failed

theorem compile_of_ok (coherent : session.Coherent) {book : RuleBook Float}
    (succeeded : session.compile.2 = .ok book) :
    session.compile.1.presetBook.isSome = true ∧ session.compile.1.mergedBook = some book := by
  have compiled := compiled_of_coherent coherent
  generalize session.compile = step at compiled succeeded ⊢
  cases compiled with
  | presetRefused refused absent unmerged => cases succeeded
  | questionRefused built refused unmerged => cases succeeded
  | built built extended => exact ⟨rfl, congrArg some (Except.ok.inj succeeded)⟩

/-- What compiling fails with depends on the two texts alone. -/
theorem compile_eq_error_of_texts (coherent : session.Coherent) {other : Session}
    (otherCoherent : other.Coherent) (preset : other.presetRules = session.presetRules)
    (question : other.questionRules = session.questionRules) {cause : RuleError}
    (failed : session.compile.2 = .error cause) : other.compile.2 = .error cause := by
  obtain ⟨result, -⟩ := compile_spec coherent
  obtain ⟨otherResult, -⟩ := compile_spec otherCoherent
  have same : other.texts.book = session.texts.book := by
    unfold texts RuleTexts.book
    rw [preset, question]
  rw [otherResult, same, ← result, failed]

/-! ## Checking -/

/-- A check compiles, unless it is over before the rules are needed. -/
theorem check_cases (session : Session) (input targets : String) :
    ((readable input = false ∨ Text.isBlankString targets = true) ∧
        (session.check input targets).1 = session ∧
        ∃ verdict, (session.check input targets).2 = .ok verdict) ∨
      readable input = true ∧ Text.isBlankString targets = false ∧
        (session.check input targets).1 = session.compile.1 ∧
        ((∃ cause, session.compile.2 = .error cause ∧
            (session.check input targets).2 = .error (.rules cause)) ∨
          ∃ book unit, session.compile.2 = .ok book ∧
            (session.check input targets).2 = judge book.table unit targets) := by
  unfold check readable
  cases Text.isBlankString input <;> cases Text.isBlankString targets
  case false.false =>
    cases parseUnit input with
    | error failure => exact Or.inl ⟨Or.inl rfl, rfl, _, rfl⟩
    | ok unit =>
        refine Or.inr ⟨rfl, rfl, ?_⟩
        generalize session.compile = step
        obtain ⟨after, outcome⟩ := step
        cases outcome with
        | error cause => exact ⟨rfl, Or.inl ⟨cause, rfl, rfl⟩⟩
        | ok book => exact ⟨rfl, Or.inr ⟨book, unit, rfl, rfl⟩⟩
  case false.true => exact Or.inl ⟨Or.inr rfl, rfl, _, rfl⟩
  all_goals exact Or.inl ⟨Or.inl rfl, rfl, _, rfl⟩

theorem check_keeps (coherent : session.Coherent) (input targets : String) :
    (∀ base, session.presetBook = some base →
        (session.check input targets).1.presetBook = some base) ∧
      ∀ book, session.mergedBook = some book →
        (session.check input targets).1.mergedBook = some book := by
  rcases check_cases session input targets with ⟨-, same, -⟩ | ⟨-, -, compiled, -⟩
  · rw [same]
    exact ⟨fun _ => id, fun _ => id⟩
  · rw [compiled]
    exact compile_keeps coherent

theorem check_of_early {input targets : String}
    (early : Text.isBlankString input = true ∨ Text.isBlankString targets = true ∨
      ∃ failure, parseUnit input = .error failure) :
    (session.check input targets).1 = session := by
  rcases check_cases session input targets with ⟨-, same, -⟩ | ⟨read, visible, -⟩
  · exact same
  · obtain ⟨inputVisible, unit, parsed⟩ := readable_iff.mp read
    rcases early with blank | blank | ⟨failure, refused⟩
    · cases inputVisible.symm.trans blank
    · cases visible.symm.trans blank
    · cases parsed.symm.trans refused

theorem check_of_error_rules {input targets : String} {cause : RuleError}
    (failed : (session.check input targets).2 = .error (.rules cause)) :
    session.compile.2 = .error cause ∧ (session.check input targets).1 = session.compile.1 := by
  rcases check_cases session input targets with ⟨-, -, verdict, given⟩ |
    ⟨-, -, compiled, ⟨fault, refused, blamed⟩ | ⟨book, unit, -, judged⟩⟩
  · cases given.symm.trans failed
  · cases blamed.symm.trans failed
    exact ⟨refused, compiled⟩
  · rw [judged, judge] at failed
    cases parsed : parseTargets targets <;> simp [parsed] at failed

/-- A check finds fault with the targets only after both books are built. -/
theorem check_of_error_targets (coherent : session.Coherent) {input targets : String}
    {cause : TargetError} (failed : (session.check input targets).2 = .error (.targets cause)) :
    (session.check input targets).1.presetBook.isSome = true ∧
      (session.check input targets).1.mergedBook.isSome = true := by
  rcases check_cases session input targets with ⟨-, -, verdict, given⟩ |
    ⟨-, -, compiled, ⟨fault, -, refused⟩ | ⟨book, -, succeeded, -⟩⟩
  · cases given.symm.trans failed
  · cases refused.symm.trans failed
  · obtain ⟨preset, merged⟩ := compile_of_ok coherent succeeded
    rw [compiled, merged]
    exact ⟨preset, rfl⟩

/-! ## Operations -/

theorem respond_presetBook_eq_iff (coherent : session.Coherent) {base : RuleBook Float}
    (kept : session.presetBook = some base) (command : SessionCommand) :
    (session.respond command).1.presetBook = some base ↔
      ¬command.Replaces session.presetId := by
  cases command with
  | selectPreset id rules =>
      simp only [respond, selectPreset, SessionCommand.Replaces]
      by_cases same : id = session.presetId <;> simp [same, kept]
  | setQuestionRules rules => simp [respond, setQuestionRules, SessionCommand.Replaces, kept]
  | compile =>
      simp [respond, SessionCommand.Replaces, (compile_keeps coherent).1 base kept]
  | check input targets =>
      simp [respond, SessionCommand.Replaces, (check_keeps coherent input targets).1 base kept]

theorem respond_mergedBook_eq_iff (coherent : session.Coherent) {book : RuleBook Float}
    (kept : session.mergedBook = some book) (command : SessionCommand) :
    (session.respond command).1.mergedBook = some book ↔
      ¬command.Replaces session.presetId ∧ ¬command.Rewrites := by
  cases command with
  | selectPreset id rules =>
      simp only [respond, selectPreset, SessionCommand.Replaces, SessionCommand.Rewrites]
      by_cases same : id = session.presetId <;> simp [same, kept]
  | setQuestionRules rules =>
      simp [respond, setQuestionRules, SessionCommand.Rewrites]
  | compile =>
      simp [respond, SessionCommand.Replaces, SessionCommand.Rewrites,
        (compile_keeps coherent).2 book kept]
  | check input targets =>
      simp [respond, SessionCommand.Replaces, SessionCommand.Rewrites,
        (check_keeps coherent input targets).2 book kept]

theorem respond_presetId_eq (coherent : session.Coherent) {command : SessionCommand}
    (same : ¬command.Replaces session.presetId) :
    (session.respond command).1.presetId = session.presetId := by
  obtain ⟨-, -, texts⟩ := respond_eq coherent command
  refine (congrArg RuleTexts.presetId texts).trans ?_
  cases command with
  | selectPreset id rules =>
      have chosen : id = session.texts.presetId := not_not.mp same
      rw [RuleTexts.after, if_pos chosen]
      rfl
  | setQuestionRules rules => rfl
  | compile => rfl
  | check input targets => rfl

theorem run_presetBook_eq (coherent : session.Coherent) {base : RuleBook Float}
    (kept : session.presetBook = some base) (commands : List SessionCommand)
    (same : ∀ command ∈ commands, ¬command.Replaces session.presetId) :
    (session.run commands).1.presetBook = some base := by
  induction commands generalizing session with
  | nil => exact kept
  | cons command rest ih =>
      obtain ⟨here, others⟩ := List.forall_mem_cons.mp same
      -- The number stays too, so what is required of the rest is required of the next session.
      apply ih (respond_eq coherent command).2.1
      · exact (respond_presetBook_eq_iff coherent kept command).mpr here
      · rw [respond_presetId_eq coherent here]
        exact others

theorem run_mergedBook_eq (coherent : session.Coherent) {book : RuleBook Float}
    (kept : session.mergedBook = some book) (commands : List SessionCommand)
    (same : ∀ command ∈ commands, ¬command.Replaces session.presetId ∧ ¬command.Rewrites) :
    (session.run commands).1.mergedBook = some book := by
  induction commands generalizing session with
  | nil => exact kept
  | cons command rest ih =>
      obtain ⟨here, others⟩ := List.forall_mem_cons.mp same
      apply ih (respond_eq coherent command).2.1
      · exact (respond_mergedBook_eq_iff coherent kept command).mpr here
      · rw [respond_presetId_eq coherent here.1]
        exact others

/-- Compiling and checking change no text. A compilation that fails leaves no merged book, leaves
the preset book if the preset rules compile, and fails again while the texts are the same. A check
that ends early leaves the session as it is, one that fails on the rules has failed to compile, and
one that fails on its targets leaves both books. A book that is built is kept by all operations but
those that replace its rules. -/
theorem Reachable.layers (reachable : session.Reachable) :
    (session.compile.1.texts = session.texts ∧
      ∀ input targets, (session.check input targets).1.texts = session.texts) ∧
    (∀ cause, session.compile.2 = .error cause →
      session.compile.1.mergedBook = none ∧
      (session.compile.1.presetBook.isSome = true ↔
        ∃ base, RuleBook.ofRules (α := Float) session.presetRules = .ok base) ∧
      ∀ commands, (session.compile.1.run commands).1.presetRules = session.presetRules →
        (session.compile.1.run commands).1.questionRules = session.questionRules →
        (session.compile.1.run commands).1.compile.2 = .error cause) ∧
    (∀ input targets,
      (Text.isBlankString input = true ∨ Text.isBlankString targets = true ∨
        ∃ failure, parseUnit input = .error failure) →
      (session.check input targets).1 = session) ∧
    (∀ input targets cause, (session.check input targets).2 = .error (.rules cause) →
      session.compile.2 = .error cause ∧ (session.check input targets).1 = session.compile.1) ∧
    (∀ input targets cause, (session.check input targets).2 = .error (.targets cause) →
      (session.check input targets).1.presetBook.isSome = true ∧
        (session.check input targets).1.mergedBook.isSome = true) ∧
    (∀ base, session.presetBook = some base →
      (∀ command, (session.respond command).1.presetBook = some base ↔
        ¬command.Replaces session.presetId) ∧
      ∀ commands, (∀ command ∈ commands, ¬command.Replaces session.presetId) →
        (session.run commands).1.presetBook = some base) ∧
    (∀ book, session.mergedBook = some book →
      (∀ command, (session.respond command).1.mergedBook = some book ↔
        ¬command.Replaces session.presetId ∧ ¬command.Rewrites) ∧
      ∀ commands,
        (∀ command ∈ commands, ¬command.Replaces session.presetId ∧ ¬command.Rewrites) →
        (session.run commands).1.mergedBook = some book) := by
  have coherent := reachable.coherent
  obtain ⟨-, compiledCoherent, compiledTexts, -⟩ := compile_spec coherent
  refine ⟨⟨compiledTexts, ?_⟩, ?_, ?_, ?_, ?_, ?_, ?_⟩
  · intro input targets
    exact (check_spec coherent input targets).2.2
  · intro cause failed
    obtain ⟨unmerged, preset⟩ := compile_of_error coherent failed
    refine ⟨unmerged, preset, ?_⟩
    intro commands samePreset sameQuestion
    exact compile_eq_error_of_texts coherent (run_eq compiledCoherent commands).2 samePreset
      sameQuestion failed
  · intro input targets early
    exact check_of_early early
  · intro input targets cause failed
    exact check_of_error_rules failed
  · intro input targets cause failed
    exact check_of_error_targets coherent failed
  · intro base kept
    exact ⟨respond_presetBook_eq_iff coherent kept, run_presetBook_eq coherent kept⟩
  · intro book kept
    exact ⟨respond_mergedBook_eq_iff coherent kept, run_mergedBook_eq coherent kept⟩

/-- The preset is compiled, and the question rules use an unknown prefix. -/
def refusedQuestion : Session :=
  (start.run [.selectPreset 7 "m: k", .compile, .setQuestionRules "m: q"]).1

theorem Reachable.layers_refusedQuestion :
    refusedQuestion.Reachable ∧
      refusedQuestion.compile.1.mergedBook = none ∧
      refusedQuestion.compile.1.presetBook.isSome = true ∧
      (refusedQuestion.compile.1.run [.check "km" "m", .compile]).1.compile.2 =
        .error (.unknownPrefix "q") ∧
      (refusedQuestion.check "2m" "m").1 = refusedQuestion := by
  have reachable : refusedQuestion.Reachable := Reachable.start.run _
  obtain ⟨-, failures, early, -⟩ := reachable.layers
  have failed : refusedQuestion.compile.2 = .error (.unknownPrefix "q") := by
    rw [(compile_spec reachable.coherent).1]
    rfl
  obtain ⟨unmerged, preset, again⟩ := failures _ failed
  refine ⟨reachable, unmerged, preset.mpr (isOk_iff.mp (by decide +kernel)), ?_, ?_⟩
  · exact again _ (by decide +kernel) (by decide +kernel)
  · exact early "2m" "m" (Or.inr (Or.inr ⟨_, rfl⟩))

end Session

end UnitCheck
