import UnitCheck.Diagnostic
import UnitCheck.Session
import UnitCheck.Preset.Registry

/-!
# From errors to diagnostics

The diagnostic that each kind of error is reported as. The place within a question is not known
here; whoever reads a setting adds its name with `Diagnostic.inField`.
-/

namespace UnitCheck

/-- The report of a malformed unit expression. -/
def UnitError.diagnostic (failure : UnitError) : Diagnostic :=
  .unitSyntax failure.message

/-- The report of a malformed target list. -/
def TargetError.diagnostic : TargetError → Diagnostic
  | .blankClause => .targetSyntax "" "empty target unit"
  | .invalidClause clause cause => .targetSyntax clause cause.message

/-- The report of a malformed rule text. -/
def RuleError.diagnostic (failure : RuleError) : Diagnostic :=
  match failure with
  | .unknownPrefix word => .unknownPrefix word
  | .invalidUnitName clause => (Diagnostic.ruleSyntax failure.message).withClause clause
  | .malformedTerm clause => (Diagnostic.ruleSyntax failure.message).withClause clause
  | .prefixSyntax clause => (Diagnostic.ruleSyntax failure.message).withClause clause

/-- The report of an error found while checking. -/
def CheckError.diagnostic : CheckError → Diagnostic
  | .rules cause => cause.diagnostic
  | .targets cause => cause.diagnostic

/-- The report of a refused preset. Rules that do not compile are reported as such, with a note that
names the preset. -/
def PresetError.diagnostic (failure : PresetError) : Diagnostic :=
  match failure with
  | .invalidRules _ cause => cause.diagnostic.withNote failure.message
  | .reservedId _ => .invalidPreset failure.message
  | .duplicateId _ => .invalidPreset failure.message
  | .malformed => .invalidPreset failure.message

end UnitCheck
