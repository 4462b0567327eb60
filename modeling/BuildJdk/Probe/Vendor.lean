import BuildJdk.Text.Blank
import BuildJdk.Text.Lower

/-!
# Names of implementations

The vendor that an installation names is mapped to the name of the implementation. A vendor is
recognised by a word in its name, in any letter case, and the first rule that applies decides. A
vendor that no rule knows keeps its own name.
-/

namespace BuildJdk

open Text

/-- What an installation is called without a compiler or with one. -/
def kindName (isJdk : Bool) : String := if isJdk then "JDK" else "JRE"

namespace Vendor

/-- Whether the vendor is Oracle. -/
def isOracle (vendor : String) : Bool := containsAnyCase vendor "oracle"

/-- The vendors other than Oracle, by their words, each with what its implementation is called. Those
that are called by their kind come with `true`. -/
def known : List (List String × String × Bool) :=
  [(["adoptium", "temurin"], "Eclipse Temurin", false),
   (["adoptopenjdk"], "AdoptOpenJDK", false),
   (["amazon"], "Amazon Corretto", false),
   (["azul"], "Azul Zulu", false),
   (["bellsoft"], "BellSoft Liberica", false),
   (["microsoft"], "Microsoft", false),
   (["ibm", "international business machines"], "IBM", true),
   (["red hat"], "Red Hat", false),
   (["sap"], "SapMachine", false),
   (["graalvm"], "GraalVM", false)]

/-- The name of an implementation whose vendor is known. -/
def knownName? (vendor : String) (isJdk : Bool) : Option String :=
  match known.find? fun (words, _) => words.any (containsAnyCase vendor) with
  | some (_, name, true) => some (name ++ " " ++ kindName isJdk)
  | some (_, name, false) => some name
  | none => none

/-- The name of the implementation, from the vendor, the name of the runtime if there is one, and
whether there is a compiler. Oracle's builds of OpenJDK are told by the name of their runtime. -/
def implementationName (vendor : String) (runtime : Option String) (isJdk : Bool) : String :=
  if isOracle vendor then
    if runtime.any (contains · "OpenJDK") then "OpenJDK" else "Oracle " ++ kindName isJdk
  else
    match knownName? vendor isJdk with
    | some name => name
    | none => if isAllBlank vendor then "Unknown " ++ kindName isJdk else trim vendor

end Vendor

end BuildJdk
