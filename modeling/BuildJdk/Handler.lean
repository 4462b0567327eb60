import BuildJdk.CommandLine.Basic
import BuildJdk.Config
import BuildJdk.Locate
import BuildJdk.Report.Resolved
import BuildJdk.Report.Scan
import BuildJdk.Report.Validation
import BuildJdk.Scan

/-!
# Handling commands

A handler has all that a command needs: the configuration, the properties, the home that was named, and
the host. Handling a command gives what it prints and whether it fails; a failed command has printed
nothing, but for a validation in JSON, which prints its report before it fails.
-/

namespace BuildJdk

open CommandLine (Command PolicyChoice)

/-- What a command leaves behind. -/
structure Outcome where
  output : String
  result : Except Failure Unit

/-- All that a command needs. -/
structure Handler (σ : Type) where
  host : Host σ
  config : Config
  source : Property.Source
  /-- The home of the current installation, if it was named. -/
  javaHome : Option Path

namespace Resolved

/-- Asks the installations of a build that was just resolved. -/
def asking {σ α : Type} (r : Resolved) (q : Question σ α) : Action σ α := fun s =>
  let (answer, (s, _)) := q (s, r)
  (answer, s)

end Resolved

namespace Handler

variable {σ : Type}

/-- The policies that are checked unless some are chosen. -/
def defaultPolicies : List Policy := [.allBuilds, .compilation]

/-- The policies to check. -/
def selected (choices : List PolicyChoice) : List Policy :=
  if choices = [] then defaultPolicies else choices.map (·.policy)

/-- Resolves the installations of the build. -/
def resolve (h : Handler σ) (remoteCache : Bool) : Action σ Resolved := do
  let home ← Locate.currentHome (← h.host.look) h.javaHome h.source
  Resolved.resolve h.host h.config.requirements (remoteCache || h.config.remoteCache) home h.source

/-- Checks a policy. -/
def verdict (h : Handler σ) (policy : Policy) : Resolved.Question σ Report.Verdict :=
  return { policy, violations := ← Resolved.check h.host policy }

/-- Checks the chosen policies, one after the other. -/
def validate (h : Handler σ) (choices : List PolicyChoice) (remoteCache : Bool) :
    Action σ (List Report.Verdict) := do
  let resolved ← h.resolve remoteCache
  resolved.asking ((selected choices).mapM h.verdict)

/-- What the scan reports on a home. A failed probe is reported, and the scan goes on. -/
def scanHome (h : Handler σ) (home : Path) : StateM σ Report.ScanEntry := do
  match ← (h.host.probe home).run with
  | .ok probed => return { home, probed := some probed, error := none }
  | .error e => return { home, probed := none, error := some e.message }

/-- Finds the homes under the roots, and probes each of them. -/
def scan (h : Handler σ) (roots : List Path) : StateM σ (List Report.ScanEntry) := do
  (Scan.homes (h.host.machine (← get)) roots).mapM h.scanHome

/-! ## Commands -/

/-- What is left of a command that prints nothing unless it succeeds. -/
def printing (action : Action σ String) : StateM σ Outcome := do
  match ← action.run with
  | .ok output => return { output, result := .ok () }
  | .error e => return { output := "", result := .error e }

/-- The report and the result of checked policies. -/
def concluded (verdicts : List Report.Verdict) (json : Bool) : Outcome :=
  if Report.messages verdicts = [] then
    { output := Report.validation verdicts (.ofFlag json), result := .ok () }
  else
    { output := if json then Report.validation verdicts .json else ""
      result := .error (.violated (Report.messages verdicts)) }

/-- Carries out a command. -/
def handle (h : Handler σ) : Command → StateM σ Outcome
  | .resolve json => printing do
    let resolved ← h.resolve false
    resolved.asking (Report.resolved h.host (.ofFlag json))
  | .validate policies remoteCache json => do
    match ← (h.validate policies remoteCache).run with
    | .ok verdicts => return concluded verdicts json
    | .error e => return { output := "", result := .error e }
  | .scan roots json => do
    let entries ← h.scan (Scan.defaultRoots (h.host.machine (← get)) ++ roots)
    return { output := Report.scan entries (.ofFlag json), result := .ok () }

end Handler

end BuildJdk
