import UnitCheck.Proofs.Rules.Sequence
import UnitCheck.Session

/-!
# Cached rules

A session keeps the books it has built. `run_start_eq` says that no client can tell: whatever was
selected, set, compiled and checked before, and whatever failed on the way, a session answers like
one that reads the rule texts in force anew for each command.

The invariant is `Coherent`: a book that is kept is the one that the texts in force give, and the
merged book is kept on top of a preset book only. `respond_eq` is one command and `run_eq` a run.
-/

namespace UnitCheck

/-- What a client asks of a session. -/
inductive SessionCommand where
  | selectPreset (id : UInt32) (rules : String)
  | setQuestionRules (rules : String)
  | compile
  | check (input targets : String)

inductive SessionResponse where
  | done
  | compiled (result : Except RuleError (RuleBook Float))
  | checked (result : Except CheckError Verdict)

namespace Session

def respond (session : Session) : SessionCommand → Session × SessionResponse
  | .selectPreset id rules => (session.selectPreset id rules, .done)
  | .setQuestionRules rules => (session.setQuestionRules rules, .done)
  | .compile => (session.compile.1, .compiled session.compile.2)
  | .check input targets =>
      ((session.check input targets).1, .checked (session.check input targets).2)

def run (session : Session) : List SessionCommand → Session × List SessionResponse
  | [] => (session, [])
  | command :: rest =>
      (((session.respond command).1.run rest).1,
        (session.respond command).2 :: ((session.respond command).1.run rest).2)

end Session

/-! ## Answers without a cache -/

/-- The rule texts in force: those of the preset that was selected last under another number than
the one before, and those of the question that were set last since then. -/
structure RuleTexts where
  presetId : UInt32 := 0
  preset : String := ""
  question : String := ""

namespace RuleTexts

/-- Selecting the current number again changes nothing. Another number brings its rules into force
and takes those of the question out. -/
def after (texts : RuleTexts) : SessionCommand → RuleTexts
  | .selectPreset id rules => if id = texts.presetId then texts else ⟨id, rules, ""⟩
  | .setQuestionRules rules => { texts with question := rules }
  | .compile => texts
  | .check _ _ => texts

/-- The book of both texts, read as one. -/
def book (texts : RuleTexts) : Except RuleError (RuleBook Float) :=
  RuleBook.ofRules (texts.preset ++ ";" ++ texts.question)

/-- The verdict on a submission under the book of both texts. -/
def check (texts : RuleTexts) (input targets : String) : Except CheckError Verdict :=
  if Text.isBlankString input && Text.isBlankString targets then .ok (.matched 1.0 0)
  else if Text.isBlankString input || Text.isBlankString targets then .ok .rejected
  else match parseUnit input with
    | .error _ => .ok .rejected
    | .ok unit =>
        match texts.book with
        | .error cause => .error (.rules cause)
        | .ok book => judge book.table unit targets

def respond (texts : RuleTexts) : SessionCommand → SessionResponse
  | .selectPreset _ _ => .done
  | .setQuestionRules _ => .done
  | .compile => .compiled texts.book
  | .check input targets => .checked (texts.check input targets)

def run (texts : RuleTexts) : List SessionCommand → List SessionResponse
  | [] => []
  | command :: rest => texts.respond command :: (texts.after command).run rest

theorem book_eq (texts : RuleTexts) :
    texts.book = (RuleBook.ofRules texts.preset).bind fun base => base.extend texts.question :=
  RuleBook.extend_append .empty texts.preset texts.question

end RuleTexts

/-! ## The invariant -/

namespace Session

def texts (session : Session) : RuleTexts :=
  ⟨session.presetId, session.presetRules, session.questionRules⟩

/-- The books that are kept are those of the texts in force. -/
structure Coherent (session : Session) : Prop where
  preset : ∀ base, session.presetBook = some base →
    RuleBook.ofRules session.presetRules = .ok base
  merged : ∀ book, session.mergedBook = some book →
    ∃ base, session.presetBook = some base ∧ base.extend session.questionRules = .ok book

theorem coherent_start : Coherent start := by
  constructor
  · intro base kept
    cases kept
  · intro book kept
    cases kept

theorem Coherent.selectPreset {session : Session} (coherent : session.Coherent) (id : UInt32)
    (rules : String) : (session.selectPreset id rules).Coherent := by
  unfold Session.selectPreset
  split
  · exact coherent
  · constructor
    · intro base kept
      cases kept
    · intro book kept
      cases kept

theorem Coherent.setQuestionRules {session : Session} (coherent : session.Coherent)
    (rules : String) : (session.setQuestionRules rules).Coherent := by
  constructor
  · exact coherent.preset
  · intro book kept
    cases kept

theorem texts_selectPreset (session : Session) (id : UInt32) (rules : String) :
    (session.selectPreset id rules).texts = session.texts.after (.selectPreset id rules) := by
  unfold Session.selectPreset RuleTexts.after
  by_cases same : id = session.presetId
  · rw [if_pos same]
    exact (if_pos same).symm
  · rw [if_neg same]
    exact (if_neg same).symm

theorem compilePreset_eq {session : Session} (coherent : session.Coherent) :
    session.compilePreset =
      match RuleBook.ofRules (α := Float) session.presetRules with
      | .ok base => ({ session with presetBook := some base }, .ok base)
      | .error cause => (session, .error cause) := by
  unfold compilePreset
  cases kept : session.presetBook with
  | none => cases RuleBook.ofRules (α := Float) session.presetRules <;> rfl
  | some base =>
      rw [coherent.preset base kept]
      simp only [← kept]

theorem compileQuestion_eq {session : Session} {base : RuleBook Float}
    (coherent : session.Coherent) (kept : session.presetBook = some base) :
    session.compileQuestion base =
      match base.extend session.questionRules with
      | .ok book => ({ session with mergedBook := some book }, .ok book)
      | .error cause => (session, .error cause) := by
  unfold compileQuestion
  cases merged : session.mergedBook with
  | none => cases base.extend session.questionRules <;> rfl
  | some book =>
      obtain ⟨other, otherKept, built⟩ := coherent.merged book merged
      obtain rfl : base = other := Option.some.inj (kept.symm.trans otherKept)
      rw [built]
      simp only [← merged]

theorem Coherent.keepPreset {session : Session} (coherent : session.Coherent)
    {base : RuleBook Float} (built : RuleBook.ofRules session.presetRules = .ok base) :
    Coherent { session with presetBook := some base } := by
  constructor
  · intro other kept
    rw [← Option.some.inj kept]
    exact built
  · intro book kept
    obtain ⟨other, otherKept, extended⟩ := coherent.merged book kept
    have same : base = other :=
      Except.ok.inj (built.symm.trans (coherent.preset other otherKept))
    exact ⟨base, rfl, same ▸ extended⟩

theorem Coherent.keepMerged {session : Session} (coherent : session.Coherent)
    {base book : RuleBook Float} (kept : session.presetBook = some base)
    (built : base.extend session.questionRules = .ok book) :
    Coherent { session with mergedBook := some book } := by
  constructor
  · exact coherent.preset
  · intro other otherKept
    rw [← Option.some.inj otherKept]
    exact ⟨base, kept, built⟩

/-- Compiling gives the book of the texts in force, keeps the preset book if there is one, and
changes no text. -/
theorem compile_spec {session : Session} (coherent : session.Coherent) :
    session.compile.2 = session.texts.book ∧
      session.compile.1.Coherent ∧
      session.compile.1.texts = session.texts ∧
      session.compile.1.presetBook =
        (RuleBook.ofRules (α := Float) session.presetRules).toOption := by
  have texts : session.texts.book = (RuleBook.ofRules session.presetRules).bind fun base =>
      base.extend session.questionRules := session.texts.book_eq
  unfold compile
  rw [texts, compilePreset_eq coherent]
  cases built : RuleBook.ofRules (α := Float) session.presetRules with
  | error cause =>
      refine ⟨rfl, coherent, rfl, ?_⟩
      cases kept : session.presetBook with
      | none => rfl
      | some base => cases built.symm.trans (coherent.preset base kept)
  | ok base =>
      have baseCoherent := coherent.keepPreset built
      simp only
      rw [compileQuestion_eq baseCoherent rfl]
      cases extended : base.extend session.questionRules with
      | error cause => exact ⟨extended.symm, baseCoherent, rfl, rfl⟩
      | ok book => exact ⟨extended.symm, baseCoherent.keepMerged rfl extended, rfl, rfl⟩

theorem check_spec {session : Session} (coherent : session.Coherent) (input targets : String) :
    (session.check input targets).2 = session.texts.check input targets ∧
      (session.check input targets).1.Coherent ∧
      (session.check input targets).1.texts = session.texts := by
  obtain ⟨result, afterCoherent, afterTexts, -⟩ := compile_spec coherent
  unfold check RuleTexts.check
  cases Text.isBlankString input <;> cases Text.isBlankString targets
  case false.false =>
    cases parseUnit input with
    | error failure => exact ⟨rfl, coherent, rfl⟩
    | ok unit =>
        simp only [← result]
        generalize session.compile = step at afterCoherent afterTexts ⊢
        obtain ⟨after, outcome⟩ := step
        cases outcome with
        | error cause => exact ⟨rfl, afterCoherent, afterTexts⟩
        | ok book => exact ⟨rfl, afterCoherent, afterTexts⟩
  all_goals exact ⟨rfl, coherent, rfl⟩

/-! ## Runs -/

theorem respond_eq {session : Session} (coherent : session.Coherent) (command : SessionCommand) :
    (session.respond command).2 = session.texts.respond command ∧
      (session.respond command).1.Coherent ∧
      (session.respond command).1.texts = session.texts.after command := by
  cases command with
  | selectPreset id rules =>
      exact ⟨rfl, coherent.selectPreset id rules, texts_selectPreset session id rules⟩
  | setQuestionRules rules => exact ⟨rfl, coherent.setQuestionRules rules, rfl⟩
  | compile =>
      obtain ⟨result, afterCoherent, afterTexts, -⟩ := compile_spec coherent
      exact ⟨congrArg SessionResponse.compiled result, afterCoherent, afterTexts⟩
  | check input targets =>
      obtain ⟨result, afterCoherent, afterTexts⟩ := check_spec coherent input targets
      exact ⟨congrArg SessionResponse.checked result, afterCoherent, afterTexts⟩

theorem run_eq {session : Session} (coherent : session.Coherent)
    (commands : List SessionCommand) :
    (session.run commands).2 = session.texts.run commands ∧ (session.run commands).1.Coherent := by
  induction commands generalizing session with
  | nil => exact ⟨rfl, coherent⟩
  | cons command rest ih =>
      obtain ⟨response, afterCoherent, afterTexts⟩ := respond_eq coherent command
      obtain ⟨responses, endCoherent⟩ := ih afterCoherent
      refine ⟨?_, endCoherent⟩
      simp only [run, RuleTexts.run, response, responses, afterTexts]

/-- The texts in force after a run are those that its commands say. -/
theorem texts_run {session : Session} (coherent : session.Coherent)
    (commands : List SessionCommand) :
    (session.run commands).1.texts = commands.foldl RuleTexts.after session.texts := by
  induction commands generalizing session with
  | nil => rfl
  | cons command rest ih =>
      obtain ⟨-, afterCoherent, afterTexts⟩ := respond_eq coherent command
      rw [run, List.foldl_cons, ih afterCoherent, afterTexts]

theorem Coherent.isSome_presetBook {session : Session} (coherent : session.Coherent)
    (merged : session.mergedBook.isSome = true) : session.presetBook.isSome = true := by
  obtain ⟨book, kept⟩ := Option.isSome_iff_exists.mp merged
  obtain ⟨base, baseKept, -⟩ := coherent.merged book kept
  exact Option.isSome_iff_exists.mpr ⟨base, baseKept⟩

/-- Every answer of a session is the one that the rule texts in force give when they are read anew,
and a merged book is only ever kept together with a preset book. -/
theorem run_start_eq (commands : List SessionCommand) :
    (start.run commands).2 = RuleTexts.run {} commands ∧
      ((start.run commands).1.mergedBook.isSome = true →
        (start.run commands).1.presetBook.isSome = true) := by
  obtain ⟨responses, coherent⟩ := run_eq coherent_start commands
  exact ⟨responses, coherent.isSome_presetBook⟩

end Session

end UnitCheck
