import UnitCheck.Unit.Expression

/-!
# Target lists

The accepted answers of a question are mutually equivalent units separated by `=`, such as
`J = N m = kg m^2/s^2`. Targets are numbered from zero in the order in which they are written. A
blank text is the empty list; a blank piece of a longer text is an error.
-/

namespace UnitCheck

/-- The ways in which a target list is malformed, each named by its leftmost bad clause. -/
inductive TargetError where
  /-- There is nothing between two `=`. -/
  | blankClause
  /-- A clause is no unit expression. -/
  | invalidClause (clause : String) (cause : UnitError)
deriving DecidableEq, Repr

/-- The wording of a malformed target list. -/
def TargetError.message : TargetError → String
  | .blankClause => "empty target unit \"\""
  | .invalidClause clause cause =>
      "invalid target unit \"" ++ clause ++ "\": " ++ cause.message

/-- The acceptable units of a question, in the order in which they are written. -/
abbrev TargetList := List UnitVector

namespace TargetList

/-- The target that a clause between two `=` stands for. -/
def readClause (clause : List Char) : Except TargetError UnitVector :=
  if clause.all Text.isBlank then .error .blankClause
  else match UnitExpression.parse clause with
    | .ok target => .ok target
    | .error cause => .error (.invalidClause (String.ofList (Text.trim clause)) cause)

/-- The targets of a list, given as characters. -/
def parse (text : List Char) : Except TargetError TargetList :=
  if text.all Text.isBlank then .ok []
  else (text.splitOn '=').mapM readClause

end TargetList

/-- The targets that a text lists. -/
def parseTargets (text : String) : Except TargetError TargetList :=
  TargetList.parse text.toList

end UnitCheck
