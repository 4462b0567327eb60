import BuildJdk.Probe.Basic
import BuildJdk.Report.Format
import BuildJdk.Text.Column
import BuildJdk.Version.Document

/-!
# The report on a scan

A line or an object for each home that was found: what the probe told about it, or why it failed. In
the text, the name and an error stand in columns; a version is written without filling its column.
-/

namespace BuildJdk.Report

open Text (column)

/-- A home that was found, with what the probe told, and with the error if there was one. -/
structure ScanEntry where
  home : Path
  probed : Option Probed
  error : Option String
  deriving DecidableEq, Repr

namespace ScanEntry

/-- The line on a home. -/
def text (e : ScanEntry) : String :=
  let (name, detail) := match e.probed with
    | some p => (p.label, p.version.text)
    | none => ("unknown", column 12 (e.error.getD "-"))
  "  " ++ column 24 name ++ " " ++ detail ++ " " ++ e.home.text ++ "\n"

/-- The members that tell what the probe told. -/
def probedMembers : Option Probed → List (String × Json)
  | some p =>
    [("version", p.version.toJson), ("vendor", .string p.vendor), ("is_jdk", .boolean p.isJdk)]
  | none => []

/-- The member that tells the error. -/
def errorMembers : Option String → List (String × Json)
  | some e => [("error", .string e)]
  | none => []

/-- The home as an object. Members that have nothing to tell are left out. -/
def toJson (e : ScanEntry) : Json :=
  .object (("java_home", .string e.home.text) :: probedMembers e.probed ++ errorMembers e.error)

end ScanEntry

/-- The report on a scan. -/
def scan (entries : List ScanEntry) : Format → String
  | .text =>
    if entries = [] then "No Java installations found\n"
    else "Java installations:\n" ++ String.join (entries.map ScanEntry.text)
  | .json => Json.document (.array (entries.map ScanEntry.toJson))

end BuildJdk.Report
