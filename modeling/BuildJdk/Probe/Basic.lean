import BuildJdk.Failure

/-!
# Probing installations

A probe looks at a Java home and tells which installation is there. It may fail, it may change things
as it looks, and it may give another answer the next time. So a probe is a function of a state, and
`Host` puts it together with the machine that can be seen in the state.
-/

namespace BuildJdk

/-- What a probe tells about an installation. -/
structure Probed where
  version : Version
  /-- The name of the implementation. -/
  vendor : String
  isJdk : Bool
  deriving DecidableEq, Repr

/-- The name of an implementation with a major number, such as `Oracle JDK 9`. -/
def labelText (vendor : String) (major : Nat) : String := vendor ++ " " ++ major.repr

/-- The label of an installation: its implementation with its major number. -/
def Probed.label (p : Probed) : String := labelText p.vendor p.version.major

/-- A computation on a state that may fail. The state of a failed one is kept. -/
abbrev Action (σ α : Type) := ExceptT Failure (StateM σ) α

/-- What a command has around it: a machine to see, and a probe to ask. -/
structure Host (σ : Type) where
  /-- The machine in a state. -/
  machine : σ → Machine
  /-- Asks the probe about a home. -/
  probe : Path → Action σ Probed

namespace Host

/-- The machine as it is now. -/
def look {σ : Type} (h : Host σ) : Action σ Machine := return h.machine (← get)

/-- Asks the probe for the version only. -/
def version {σ : Type} (h : Host σ) (home : Path) : Action σ Version :=
  return (← h.probe home).version

/-- The host that also keeps a list of the homes that its probe was asked about, in order. -/
def logged {σ : Type} (h : Host σ) : Host (σ × List Path) where
  machine s := h.machine s.1
  probe home := fun (s, log) =>
    let (answer, s) := h.probe home s
    (answer, (s, log ++ [home]))

end Host

end BuildJdk
