import BuildJdk.Policy
import BuildJdk.Report.Format

/-!
# The report on checked policies

Which policies were checked, and which of their rules are violated.
-/

namespace BuildJdk.Report

/-- The violated rules of a policy that was checked. -/
structure Verdict where
  policy : Policy
  violations : List Violation
  deriving DecidableEq, Repr

/-- Whether no rule is violated. -/
def allSatisfied (verdicts : List Verdict) : Bool := verdicts.all fun v => v.violations = []

/-- The messages of all violated rules, in the order of the policies. -/
def messages (verdicts : List Verdict) : List String :=
  verdicts.flatMap fun v => v.violations.map (·.message)

/-- A violated rule as an object. Its keys are in alphabetical order. -/
def violationJson (v : Violation) : Json :=
  .object [("message", .string v.message), ("policy", .string v.policy.key)]

/-- A checked policy as an object. -/
def Verdict.toJson (v : Verdict) : Json :=
  .object [("policy", .string v.policy.key), ("violations", .array (v.violations.map violationJson))]

/-- The report on checked policies. -/
def validation (verdicts : List Verdict) : Format → String
  | .text =>
    if allSatisfied verdicts then
      "JDKs satisfy policies: " ++ String.intercalate ", " (verdicts.map (·.policy.name)) ++ "\n"
    else violationText (messages verdicts) ++ "\n"
  | .json => Json.document <| .object [
      ("policies", .array (verdicts.map Verdict.toJson)),
      ("success", .boolean (allSatisfied verdicts))]

end BuildJdk.Report
