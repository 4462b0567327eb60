import BuildJdk.Proofs.Calls
import BuildJdk.Proofs.Sharing
import BuildJdk.Report.Resolved

/-!
# Requests to a resolved set

What can be asked of the installations of a build once they are resolved, and runs of such requests, one
after the other. A failed request is answered with its failure, and the run goes on.
-/

namespace BuildJdk

/-- What can be asked of a resolved set. -/
inductive Request where
  | check (policy : Policy)
  | validate (policy : Policy)
  | validateAllBuilds
  | validateCompilation
  | validateProduction
  | label (role : Role)
  | display (role : Role)
  | toolsJar (role : Role)
  | report (format : Format)
  /-- The description of an installation for developers, with what is remembered about it. -/
  | describe (role : Role)
  /-- Whether the installations of two roles are equal. -/
  | compare (a b : Role)
  deriving DecidableEq, Repr

/-- The answer to a request. -/
inductive Reply where
  | violations (vs : List Violation)
  | satisfied
  | text (s : String)
  | path (p : Option Path)
  | truth (b : Bool)
  deriving DecidableEq, Repr

namespace Request

variable {σ : Type}

/-- Puts a request to a resolved set. -/
def ask (h : Host σ) : Request → Resolved.Question σ Reply
  | check policy => return .violations (← Resolved.check h policy)
  | validate policy => do
    Resolved.validate h policy
    return .satisfied
  | validateAllBuilds => do
    Resolved.validateAllBuilds h
    return .satisfied
  | validateCompilation => do
    Resolved.validateCompilation h
    return .satisfied
  | validateProduction => do
    Resolved.validateProduction h
    return .satisfied
  | label role => return .text (← Resolved.ask role (Installation.label h))
  | display role => return .text (← Resolved.ask role (Installation.display h))
  | toolsJar role => return .path (← Resolved.ask role (Installation.toolsJar h))
  | report format => return .text (← Report.resolved h format)
  | describe role => return .text ((← get).2.installation role).describe
  | compare a b => do
    let (_, r) ← get
    return .truth ((r.installation a).isSame (r.installation b))

/-- Puts requests to a resolved set, one after the other. -/
def run (h : Host σ) : List Request → σ × Resolved → List (Except Failure Reply) × (σ × Resolved)
  | [], x => ([], x)
  | request :: rest, x =>
    let (reply, y) := request.ask h x
    let (replies, z) := run h rest y
    (reply :: replies, z)

end Request

end BuildJdk
