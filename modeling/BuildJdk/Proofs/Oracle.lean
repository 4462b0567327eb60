import Mathlib
import BuildJdk.Proofs.Label
import BuildJdk.Proofs.Places
import BuildJdk.Proofs.Probing
import BuildJdk.Proofs.Resolution

/-!
# What is taken for an installation of Oracle

A build for production, and one with the remote cache, needs the label of a certain JDK of Oracle. Such a
label is never due to a release file: `java` itself must have reported a vendor that mentions Oracle, and no
runtime that is named as one of OpenJDK.
-/

namespace BuildJdk.LocalProbe

variable {launch : Launcher} {home : Path} {m m' : Machine}

/-! ## Probes -/

/-- The probe has run `java`, which ended well and reported an Oracle build that is not one of OpenJDK. Of
several reports of a setting the last one counts. -/
structure OracleReport (launch : Launcher) (home : Path) (m : Machine) (p : Probed) (m' : Machine)
    (f : Finished) : Prop where
  decided : Decision launch home m (some (.ok f)) (.ok p) m'
  launch_eq : launch (Home.program home "java") reportArguments m = (.ok f, m')
  status_eq : f.status = .code 0
  vendor_oracle : ∃ vendor, (settingsOf f).get? "java.vendor" = some vendor ∧
    Text.Mentions vendor "oracle"
  runtime_ne : ∀ runtime, (settingsOf f).get? "java.runtime.name" = some runtime →
    ¬ "OpenJDK".toList <:+: runtime.toList
  vendor_eq : p.vendor =
    if m'.isFile (Home.program home "javac") then "Oracle JDK" else "Oracle JRE"

theorem oracle_kindName (isJdk : Bool) :
    "Oracle " ++ kindName isJdk = if isJdk then "Oracle JDK" else "Oracle JRE" := by
  cases isJdk <;> rfl

/-- An absent vendor does not mention Oracle. -/
theorem exists_of_isOracle_getD {vendor : Option String}
    (h : Vendor.isOracle (vendor.getD "") = true) :
    ∃ name, vendor = some name ∧ Text.Mentions name "oracle" := by
  cases vendor with
  | none =>
    have hempty : Vendor.isOracle "" = false := by decide
    rw [Option.getD_none, hempty] at h
    cases h
  | some name => exact ⟨name, rfl, Vendor.isOracle_iff.mp h⟩

/-- A concluded vendor mentions Oracle only if the given one does and the runtime is no OpenJDK. -/
theorem Conclusion.of_isOracle {version vendor : String} {runtime : Option String} {p : Probed}
    (hc : Conclusion m home version vendor runtime (.ok p)) (ho : Vendor.isOracle p.vendor = true) :
    Vendor.isOracle vendor = true ∧ runtime.any (Text.contains · "OpenJDK") = false ∧
      p.vendor = if m.isFile (Home.program home "javac") then "Oracle JDK" else "Oracle JRE" := by
  cases hc with
  | known _ =>
    obtain ⟨hvendor, hruntime, hname⟩ := Vendor.of_isOracle_implementationName ho
    exact ⟨hvendor, hruntime, hname.trans (oracle_kindName _)⟩

/-- A vendor that mentions Oracle comes from a report. -/
theorem Decision.oracleReport {run : Option (Except StartError Finished)} {p : Probed}
    (hd : Decision launch home m run (.ok p) m') (ho : Text.Mentions p.vendor "oracle") :
    ∃ f, OracleReport launch home m p m' f := by
  have hdecided := hd
  rw [← Vendor.isOracle_iff] at ho
  cases hd with
  | byRelease hv hb hversion hvendor hne hc =>
    -- the vendor of a release file that is enough does not mention Oracle
    exact absurd (Vendor.isOracle_iff.mp (hc.of_isOracle ho).1) hne
  | @byReport _ f _ _ _ ha hs hn hc =>
    obtain ⟨hvendor, hruntime, hname⟩ := hc.of_isOracle ho
    refine ⟨f, hdecided, ha.launch_eq, hs, exists_of_isOracle_getD hvendor, ?_, hname⟩
    intro runtime hr
    exact Vendor.any_contains_eq_false_iff.mp hruntime runtime hr

/-! ## Labels -/

/-- Only a vendor that mentions Oracle has such a label, whatever the number is. -/
theorem eq_of_labelText {vendor number : String} {major : Nat}
    (h : labelText vendor major = "Oracle JDK " ++ number)
    (hvendor : Text.Mentions vendor "oracle" → vendor = "Oracle JDK" ∨ vendor = "Oracle JRE") :
    vendor = "Oracle JDK" ∧ number = major.repr := by
  have hlist : vendor.toList ++ (' ' :: major.repr.toList)
      = "Oracle JDK".toList ++ (' ' :: number.toList) := by
    have := congrArg String.toList h
    simpa [labelText] using this
  rcases eq_or_exists_of_space (space_not_mem_repr major) hlist with
    ⟨hfront, hback⟩ | ⟨rest, hfront, hback⟩
  · exact ⟨String.toList_inj.mp hfront, (String.toList_inj.mp hback).symm⟩
  · -- a longer vendor still mentions Oracle, and it is none of the two
    have hmentions : Text.Mentions vendor "oracle" := by
      refine ⟨"Oracle".toList, ⟨[], " JDK".toList ++ ' ' :: rest, ?_⟩, by decide⟩
      rw [hfront]
      rfl
    rcases hvendor hmentions with rfl | rfl
    · simp at hfront
    · simp at hfront

end BuildJdk.LocalProbe

namespace BuildJdk.Installation

variable {σ : Type} {h : Host σ} {s : σ} {given : Path} {i : Installation}

/-! ## Installations in an unchanged environment -/

/-- An installation that was detected in a state, and asked since while the state stayed as it was. -/
inductive Detected (h : Host σ) (given : Path) (s : σ) : Installation → Prop
  | detect {current : Bool} {i : Installation} :
      Installation.detect h current given s = (.ok i, s) → Detected h given s i
  | label {i i' : Installation} {answer : Except Failure String} : Detected h given s i →
      Installation.label h (s, i) = (answer, (s, i')) → Detected h given s i'
  | toolsJar {i i' : Installation} {answer : Except Failure (Option Path)} :
      Detected h given s i →
      Installation.toolsJar h (s, i) = (answer, (s, i')) → Detected h given s i'

theorem label_of_told {p : Probed} {s' : σ} (hknown : i.knownLabel = none)
    (hcall : h.probe i.home s = (.ok p, s')) : Installation.label h (s, i)
      = (.ok p.label, (s', { i with knownLabel := some p.label })) := by
  unfold Installation.label
  simp only [hknown, hcall]

theorem toolsJar_cases {i' : Installation} {s' : σ} {answer : Except Failure (Option Path)}
    (hj : Installation.toolsJar h (s, i) = (answer, (s', i'))) :
    ∃ jar, i' = { i with knownToolsJar := jar } := by
  unfold Installation.toolsJar at hj
  cases hknown : i.knownToolsJar with
  | some jar =>
    simp only [hknown] at hj
    cases hj
    exact ⟨some jar, by rw [← hknown]⟩
  | none =>
    simp only [hknown] at hj
    cases hj
    exact ⟨_, rfl⟩

theorem detect_ok {current : Bool} {t : σ}
    (hd : Installation.detect h current given s = (.ok i, t)) :
    ∃ p, h.probe given s = (.ok p, t) ∧ i = .new (h.machine t) current given p.version := by
  rcases hcall : h.probe given s with ⟨e | p, t'⟩
  · rw [Resolved.detect_error hcall] at hd
    cases hd
  · rw [Resolved.detect_ok hcall] at hd
    cases hd
    exact ⟨p, rfl, rfl⟩

/-- The home and the version are those of the detection, and the label, once it is remembered, is what the
probe tells at the home. -/
structure Fits (h : Host σ) (given : Path) (s : σ) (i : Installation) : Prop where
  home_eq : i.home = (h.machine s).absolute given
  version_eq : ∃ p, h.probe given s = (.ok p, s) ∧ i.version = p.version
  label_told : ∀ label, i.knownLabel = some label →
    ∃ p, h.probe i.home s = (.ok p, s) ∧ p.label = label

theorem Fits.label {i' : Installation} {answer : Except Failure String} (hi : Fits h given s i)
    (hl : Installation.label h (s, i) = (answer, (s, i'))) : Fits h given s i' := by
  rcases label_cases hl with ⟨_, _, _, _, rfl⟩ | ⟨p, hcall, -, rfl⟩ | ⟨_, _, _, rfl⟩
  · exact hi
  · refine ⟨hi.home_eq, hi.version_eq, fun label hlabel => ⟨p, hcall, ?_⟩⟩
    exact Option.some.inj hlabel
  · exact hi

theorem Detected.fits (hd : Detected h given s i) : Fits h given s i := by
  induction hd with
  | detect hd =>
    obtain ⟨p, hcall, rfl⟩ := detect_ok hd
    exact ⟨rfl, ⟨p, hcall, rfl⟩, fun label hlabel => by cases hlabel⟩
  | label _ hl ih => exact ih.label hl
  | toolsJar _ hj ih =>
    obtain ⟨jar, rfl⟩ := toolsJar_cases hj
    exact ⟨ih.home_eq, ih.version_eq, ih.label_told⟩

/-- The probe tells the label at the home whenever it is asked for. -/
theorem Fits.label_ok {i' : Installation} {s' : σ} {label : String} (hi : Fits h given s i)
    (hl : Installation.label h (s, i) = (.ok label, (s', i'))) :
    ∃ p, h.probe i.home s = (.ok p, s') ∧ p.label = label := by
  rcases label_cases hl with ⟨l, hknown, hanswer, rfl, -⟩ | ⟨p, hcall, hanswer, -⟩ | ⟨e, -, he, -⟩
  · cases hanswer
    exact hi.label_told label hknown
  · cases hanswer
    exact ⟨p, hcall, rfl⟩
  · cases he

/-! ## Rules about labels -/

/-- Only an installation with the required label passes. -/
theorem labelled_eq_none_iff {required : String} {policy : Policy} {message : String → Path → String}
    {x : σ × Installation} : Rule.labelled h required policy message (s, i) = (.ok none, x) ↔
      Installation.label h (s, i) = (.ok required, x) := by
  unfold Rule.labelled
  rw [Action.run_bind]
  rcases Installation.label h (s, i) with ⟨e | label, y⟩
  · constructor <;> intro hr <;> cases hr
  · by_cases hlabel : label = required
    · simp only [hlabel]
      constructor <;> intro hr <;> cases hr <;> rfl
    · simp only [if_neg hlabel]
      constructor
      · intro hr
        cases hr
      · intro hr
        cases hr
        exact absurd rfl hlabel

end BuildJdk.Installation

namespace BuildJdk

/-! ## Spellings of a home -/

/-- What a program does depends on the place that its path leads to, not on how the path is spelled. -/
def Launcher.ByPlace (launch : Launcher) (m : Machine) : Prop :=
  ∀ p q arguments, m.find p = m.find q → launch p arguments m = launch q arguments m

namespace LocalProbe

open Installation (Detected)

variable {launch : Launcher} {m : Machine} {p q : Path}

theorem releaseFile_eq_of_alike (h : m.Alike p q) : releaseFile m p = releaseFile m q := by
  have hname : IsName "release" := by decide
  unfold releaseFile
  rw [h.find_join_eq hname]

theorem find_java_eq (h : m.Alike p q) :
    m.find (Home.program p "java") = m.find (Home.program q "java") :=
  Home.find_program_eq h (by decide)

theorem isFile_javac_eq (h : m.Alike p q) :
    m.isFile (Home.program p "javac") = m.isFile (Home.program q "javac") := by
  have hname : IsName "javac" := by decide
  rw [Machine.isFile, Machine.isFile, Home.find_program_eq h hname]

theorem Conclusion.of_alike {version vendor : String} {runtime : Option String} {probed : Probed}
    (h : m.Alike p q) (hc : Conclusion m p version vendor runtime (.ok probed)) :
    Conclusion m q version vendor runtime (.ok probed) := by
  cases hc with
  | known hv =>
    have hjavac : m.isFile ((p.join "bin").join "javac") = m.isFile ((q.join "bin").join "javac") :=
      isFile_javac_eq h
    rw [hjavac]
    exact .known hv

/-- Where nothing changes, a probe tells the same at every spelling of a home. -/
theorem Decision.of_alike {run : Option (Except StartError Finished)} {probed : Probed}
    (h : m.Alike p q) (hl : launch.ByPlace m) (hd : Decision launch p m run (.ok probed) m) :
    Decision launch q m run (.ok probed) m := by
  have hhome : IsHome m p ↔ IsHome m q := by
    rw [isHome_iff, isHome_iff, Home.isValid_eq h]
  have hrelease := releaseFile_eq_of_alike h
  cases hd with
  | byRelease hv hb hversion hvendor ho hc =>
    exact .byRelease (hhome.mp hv) (hrelease ▸ hb) hversion hvendor ho (hc.of_alike h)
  | byReport ha hs hn hc =>
    have hlaunch := hl _ _ reportArguments (find_java_eq h)
    have ha' : Asks launch q m _ _ m :=
      ⟨hhome.mp ha.isHome, hrelease ▸ ha.bindings_eq, ha.needed, hlaunch ▸ ha.launch_eq⟩
    exact .byReport ha' hs hn (hc.of_alike h)

theorem probe_eq_of_alike {probed : Probed} (h : m.Alike p q) (hl : launch.ByPlace m)
    (hp : probe launch p m = (.ok probed, m)) : probe launch q m = (.ok probed, m) := by
  obtain ⟨run, hd⟩ := probe_eq_iff.mp hp
  exact (hd.of_alike h hl).probe_eq

/-! ## Rules for a JDK of Oracle -/

variable {given : Path} {i : Installation}

/-- An installation that passes a rule for a JDK of Oracle has been reported as one. -/
theorem oracleReport_of_passes {q : Requirements} {number : String} {x : Machine × Installation}
    (hi : Detected (host launch) given m i) (hq : q.vendorLabel = "Oracle JDK " ++ number)
    (hr : Rule.production (host launch) q (m, i) = (.ok none, x) ∨
      Rule.remoteCache (host launch) q (m, i) = (.ok none, x)) :
    ∃ p f, OracleReport launch i.home m p x.1 f ∧
      x.1.isFile (Home.program i.home "javac") = true ∧ p.vendor = "Oracle JDK" ∧
      p.version.major.repr = number := by
  have hlabel : Installation.label (host launch) (m, i) = (.ok q.vendorLabel, x) := by
    rcases hr with hr | hr
    · exact Installation.labelled_eq_none_iff.mp hr
    · exact Installation.labelled_eq_none_iff.mp hr
  obtain ⟨p, hcall, hp⟩ := hi.fits.label_ok hlabel
  have hprobe : probe launch i.home m = (.ok p, x.1) := hcall
  obtain ⟨run, hd⟩ := probe_eq_iff.mp hprobe
  have hreport : Text.Mentions p.vendor "oracle" → ∃ f, OracleReport launch i.home m p x.1 f :=
    hd.oracleReport
  have hvendor : Text.Mentions p.vendor "oracle" → p.vendor = "Oracle JDK" ∨ p.vendor = "Oracle JRE" := by
    intro ho
    obtain ⟨f, hf⟩ := hreport ho
    rw [hf.vendor_eq]
    split
    · exact Or.inl rfl
    · exact Or.inr rfl
  -- a vendor may end in a number, so the label tells it only because Oracle's vendors have one of two names
  obtain ⟨hjdk, hnumber⟩ := eq_of_labelText (hp.trans hq) hvendor
  have ho : Text.Mentions p.vendor "oracle" := by
    rw [hjdk]
    exact ⟨"Oracle".toList, ⟨[], " JDK".toList, rfl⟩, by decide⟩
  obtain ⟨f, hf⟩ := hreport ho
  refine ⟨p, f, hf, ?_, hjdk, hnumber.symm⟩
  have hname := hf.vendor_eq
  rw [hjdk] at hname
  by_cases hc : x.1.isFile (Home.program i.home "javac") = true
  · exact hc
  · rw [if_neg hc] at hname
    exact absurd hname (by decide)

/-- The version of an installation is the one that its home is probed with later. -/
theorem version_eq_of_probe {probed : Probed} (hi : Detected (host launch) given m i)
    (hm : m.Grounded) (hl : launch.ByPlace m) (hp : probe launch i.home m = (.ok probed, m)) :
    i.version = probed.version := by
  obtain ⟨first, hfirst, hversion⟩ := hi.fits.version_eq
  have hagain : probe launch i.home m = (.ok first, m) := by
    rw [hi.fits.home_eq]
    exact probe_eq_of_alike (hm.alike_absolute given) hl hfirst
  obtain ⟨heq, -⟩ := Prod.mk.inj (hagain.symm.trans hp)
  rw [hversion, Except.ok.inj heq]

/-- A vendor that mentions Oracle is told only if `java` was run and reported it, and no runtime of OpenJDK.
So an installation passes a rule for a JDK of Oracle only if its own `java` reports one, with a compiler
beside it and the required major number. -/
theorem mentions_oracle_only_if_reported (launch : Launcher) :
    (∀ home m p m', probe launch home m = (.ok p, m') → Text.Mentions p.vendor "oracle" →
      ∃ f, OracleReport launch home m p m' f) ∧
    ∀ m given i q number m' i', Detected (host launch) given m i →
      q.vendorLabel = "Oracle JDK " ++ number →
      (Rule.production (host launch) q (m, i) = (.ok none, (m', i')) ∨
        Rule.remoteCache (host launch) q (m, i) = (.ok none, (m', i'))) →
      ∃ p f, OracleReport launch i.home m p m' f ∧
        m'.isFile (Home.program i.home "javac") = true ∧ p.vendor = "Oracle JDK" ∧
        p.version.major.repr = number ∧
        (m' = m → m.Grounded → launch.ByPlace m → i.version = p.version) := by
  constructor
  · intro home m p m' hp ho
    obtain ⟨run, hd⟩ := probe_eq_iff.mp hp
    exact hd.oracleReport ho
  · intro m given i q number m' i' hi hq hr
    obtain ⟨p, f, hf, hc, hvendor, hnumber⟩ := oracleReport_of_passes hi hq hr
    refine ⟨p, f, hf, hc, hvendor, hnumber, ?_⟩
    rintro rfl hm hl
    exact version_eq_of_probe hi hm hl hf.decided.probe_eq

/-- An installation of Oracle that passes, at a home without a release file. -/
theorem mentions_oracle_only_if_reported_jdk9 :
    let reported := "java.version = 9.0.4\njava.vendor = Oracle Corporation\n"
    let f : Finished := { status := .code 0, errors := reported.toList.map Char.toUInt8 }
    let launch : Launcher := fun _ _ => pure (.ok f)
    let m : Machine := {
      files := ⟨[(["jdk"], .directory), (["jdk", "bin"], .directory),
        (["jdk", "bin", "java"], .file [] true), (["jdk", "bin", "javac"], .file [] true)]⟩
      workingDirectory := [], environment := [], accountHome := none }
    ∃ i p, Detected (host launch) ⟨"/jdk"⟩ m i ∧ (∃ f, OracleReport launch i.home m p m f) ∧
      p.vendor = "Oracle JDK" ∧ p.version.major.repr = "9" ∧ i.version = p.version := by
  intro reported f launch m
  have hsteps : Path.steps ⟨"/jdk"⟩ = ["jdk"] := by decide +kernel
  have hhome : m.find ⟨"/jdk"⟩ = .ok (["jdk"], .directory) := by
    rw [Machine.find_eq_directory_iff, hsteps]
    simp [m, Machine.start, Path.isAbsolute, FileTree.follow, FileTree.entry?, List.lookup]
  have hprogram : ∀ name, name = "java" ∨ name = "javac" → m.find (Home.program ⟨"/jdk"⟩ name)
      = .ok (["jdk", "bin", name], .file [] true) := by
    rintro name (rfl | rfl)
    all_goals
      rw [Home.find_program (by decide), hsteps]
      simp [m, Machine.start, Path.isAbsolute, FileTree.follow, FileTree.entry?, List.lookup]
  have hrelease : releaseFile m ⟨"/jdk"⟩ = .absent := by
    have hfind : m.find ((⟨"/jdk"⟩ : Path).join "release") = .error .missing := by
      rw [Machine.find_join (by decide), hsteps]
      simp [m, Machine.start, Path.isAbsolute, FileTree.follow, FileTree.entry?, List.lookup]
    unfold releaseFile
    rw [hfind]
  have hvalid : Home.isValid m ⟨"/jdk"⟩ = true := by
    simp [Home.isValid, Machine.isDirectory, Machine.isFile, hhome, hprogram]
  have hcompiler : Home.hasCompiler m ⟨"/jdk"⟩ = true := by
    simp [Home.hasCompiler, Machine.isFile, hprogram]
  let p : Probed := {
    version := ⟨"9.0.4", 9, some 0, some 4⟩, vendor := "Oracle JDK", isJdk := true }
  have hprobe : probe launch ⟨"/jdk"⟩ m = (.ok p, m) := by
    have hsettings : settingsOf f
        = [("java.version", "9.0.4"), ("java.vendor", "Oracle Corporation")] := by decide +kernel
    have hversion : (settingsOf f).get? "java.version" = some "9.0.4" := by
      rw [hsettings]
      decide
    have hvendor : (settingsOf f).get? "java.vendor" = some "Oracle Corporation" := by
      rw [hsettings]
      decide
    have hruntime : (settingsOf f).get? "java.runtime.name" = none := by
      rw [hsettings]
      decide
    have hparse : Version.parse? "9.0.4" = some p.version := by decide +kernel
    have hname : Vendor.implementationName "Oracle Corporation" none true = "Oracle JDK" := by
      decide +kernel
    rw [probe_run_of_absent (isHome_iff.mpr hvalid) hrelease rfl rfl hversion, hvendor, hruntime, concluded]
    simp only [hparse, hcompiler, Option.getD_some, hname]
    rfl
  let i : Installation := .new m true ⟨"/jdk"⟩ p.version
  have hi : Detected (host launch) ⟨"/jdk"⟩ m i := .detect (Resolved.detect_ok hprobe true)
  have hat : i.home = ⟨"/jdk"⟩ := by decide +kernel
  have hrule : Rule.production (host launch) {} (m, i)
      = (.ok none, (m, { i with knownLabel := some p.label })) := by
    have hcall : (host launch).probe i.home m = (.ok p, m) := hat ▸ hprobe
    have hlabel : p.label = "Oracle JDK 9" := by decide +kernel
    refine Installation.labelled_eq_none_iff.mpr ?_
    rw [Installation.label_of_told rfl hcall, hlabel]
  obtain ⟨q, f, hf, -, hvendor, hnumber, hversion⟩ :=
    (mentions_oracle_only_if_reported launch).2 m _ i {} "9" _ _ hi rfl (Or.inl hrule)
  have hgrounded : m.Grounded := ⟨by simp [m], by simp [m]⟩
  exact ⟨i, q, hi, ⟨f, hf⟩, hvendor, hnumber, hversion rfl hgrounded fun _ _ _ _ => rfl⟩

end LocalProbe

end BuildJdk
