import BuildJdk.Machine

/-!
# Java homes

The home of a Java installation is a directory with a file `bin/java` in it. It is a JDK if there is
also a compiler, the file `bin/javac`; otherwise it is a JRE.
-/

namespace BuildJdk.Home

/-- The path of a program of the installation. -/
def program (home : Path) (name : String) : Path := (home.join "bin").join name

/-- Whether a path leads to a Java home. -/
def isValid (m : Machine) (home : Path) : Bool := m.isDirectory home && m.isFile (program home "java")

/-- Whether the installation has a compiler. -/
def hasCompiler (m : Machine) (home : Path) : Bool := m.isFile (program home "javac")

/-- Whether `home` has a library of the given name; if so, its path. -/
def library? (m : Machine) (home : Path) (name : String) : Option Path :=
  let path := (home.join "lib").join name
  if m.isFile path then some path else none

/-- The library of the development tools, which installations up to Java 8 have. The home of the
runtime inside such an installation, a directory named `jre`, uses the one of the directory above. -/
def toolsJar? (m : Machine) (home : Path) : Option Path :=
  match library? m home "tools.jar" with
  | some path => some path
  | none =>
    if home.fileName? = some "jre" then
      home.parent?.bind fun above => library? m above "tools.jar"
    else none

end BuildJdk.Home
