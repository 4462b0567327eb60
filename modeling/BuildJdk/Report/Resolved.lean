import BuildJdk.Report.Format
import BuildJdk.Resolved
import BuildJdk.Text.Column

/-!
# The report on the installations of a build

For each role, its installation: label, home and, where there is one, the library of development
tools. All three installations are asked before anything is written, so the report is whole or fails.
-/

namespace BuildJdk.Report

open Text (column)

/-- What the report says about the installation of a role. -/
structure Summary where
  role : Role
  home : Path
  version : Version
  label : String
  current : Bool
  toolsJar : Option Path
  deriving DecidableEq, Repr

namespace Summary

/-- Asks the installation of a role for what the report says about it. -/
def of {σ : Type} (h : Host σ) (role : Role) : Resolved.Question σ Summary :=
  Resolved.ask role do
    let label ← Installation.label h
    let toolsJar ← Installation.toolsJar h
    let (_, i) ← get
    return { role, home := i.home, version := i.version, label, current := i.current, toolsJar }

/-- The lines on an installation. -/
def text (s : Summary) : String :=
  column 12 (s.role.name ++ ":") ++ " " ++ s.label ++ " (" ++ s.home.text ++ ")\n" ++
    match s.toolsJar with
    | some jar => column 12 "" ++ " tools.jar: " ++ jar.text ++ "\n"
    | none => ""

/-- The installation as an object. Its keys are in alphabetical order. -/
def toJson (s : Summary) : Json :=
  .object [
    ("is_current", .boolean s.current),
    ("java_home", .string s.home.text),
    ("major", .nat s.version.major),
    ("role", .string s.role.name),
    ("tools_jar", .ofOption (fun jar => .string jar.text) s.toolsJar),
    ("vendor_and_major_version", .string s.label),
    ("version", .string s.version.text)]

end Summary

/-- The three roles, in the order of the report. -/
def roles : List Role := [.current, .test, .compilation]

/-- The report on what is known about the installations. -/
def resolvedText (remoteCache : Bool) (summaries : List Summary) : Format → String
  | .text => String.join (summaries.map Summary.text)
  | .json => Json.document <| .object [
      ("installations", .array (summaries.map Summary.toJson)),
      ("remote_cache_enabled", .boolean remoteCache)]

/-- The report on the installations of a build. -/
def resolved {σ : Type} (h : Host σ) (format : Format) : Resolved.Question σ String := do
  let summaries ← roles.mapM (Summary.of h)
  return resolvedText (← get).2.remoteCache summaries format

end BuildJdk.Report
