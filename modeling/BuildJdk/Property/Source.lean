import BuildJdk.Machine
import BuildJdk.Text.Blank

/-!
# Where properties come from

A property is looked for in layers. The first layer that has a value for it decides, and a value of
blanks only counts as none, so that a blank value in one layer never hides the layers after it.
-/

namespace BuildJdk.Property

/-- How the value of a key is looked up on a machine. -/
abbrev Lookup := Machine → String → Option String

/-- A layer of properties. -/
inductive Layer where
  | table (bindings : Bindings)
  /-- The variables of the environment. -/
  | environment
  deriving Repr

/-- Layers, the first of which is looked at first. -/
abbrev Source := List Layer

/-- The value of a key in one layer. -/
def Layer.get? (m : Machine) (key : String) : Layer → Option String
  | table bindings => bindings.get? key
  | environment => m.variableValue? key

namespace Source

/-- The value of a key: the first one in any layer that is not blank. -/
def get? (m : Machine) (source : Source) (key : String) : Option String :=
  (source.filterMap (Layer.get? m key)).find? fun value => !Text.isAllBlank value

/-- Looks up the first value in any layer that is not blank. -/
def lookup (source : Source) : Lookup := fun m key => source.get? m key

/-- Properties of the build come first, then those of the system, then the environment. -/
def standard (build system : Bindings) : Source := [.table build, .table system, .environment]

end Source

/-! ## The properties that the program looks at -/

/-- The home of the installation that runs the build. -/
def javaHomeKey : String := "JAVA_HOME"

/-- The home of the installation for tests. -/
def testHomeKey : String := "testJavaHome"

/-- The home of the installation for compilation. -/
def compilationHomeKey : String := "java9Home"

end BuildJdk.Property
