import Mathlib
import BuildJdk.Proofs.Places
import BuildJdk.Proofs.Probing

/-!
# Probes with and without a release file

A release file that names a version and a vendor other than Oracle spares a run of `java`. Nothing is lost by
that: if `java` reports the same two texts, up to the blanks around them, the probe comes to the same without
the file. The two ways read their texts in different forms and know different runtimes, but a version is read
without the blanks around it, and the name of an implementation that is not Oracle's depends neither on them
nor on the runtime.
-/

namespace BuildJdk

/-! ## Taking a file away -/

namespace FileTree

/-- The tree without what stands at a location. -/
def without (t : FileTree) (l : Location) : FileTree := ⟨t.entries.filter (·.1 ≠ l)⟩

variable {t : FileTree} {l k : Location} {bytes : List UInt8} {executable : Bool}

theorem lookup_filter_ne (entries : List (Location × Entry)) (hk : k ≠ l) :
    (entries.filter (·.1 ≠ l)).lookup k = entries.lookup k := by
  induction entries with
  | nil => rfl
  | cons entry entries ih =>
    obtain ⟨at', e⟩ := entry
    by_cases hl : at' = l
    · subst hl
      rw [List.filter_cons_of_neg (by simp), ih, List.lookup_cons, beq_eq_false_iff_ne.mpr hk]
    · rw [List.filter_cons_of_pos (by simpa using hl), List.lookup_cons, List.lookup_cons, ih]

theorem lookup_filter_self (entries : List (Location × Entry)) (l : Location) :
    (entries.filter (·.1 ≠ l)).lookup l = none := by
  rw [List.lookup_eq_none_iff]
  intro entry hentry
  have hne : entry.1 ≠ l := by simpa using (List.mem_filter.mp hentry).2
  simpa using hne.symm

theorem entry?_without_of_ne (t : FileTree) (hk : k ≠ l) : entry? (t.without l) k = t.entry? k := by
  unfold entry? without
  rw [lookup_filter_ne t.entries hk]

theorem entry?_without_self (hl : l ≠ []) : entry? (t.without l) l = none := by
  unfold entry? without
  rw [if_neg hl, lookup_filter_self]

/-- The root is no file. -/
theorem ne_nil_of_file (hfile : t.entry? l = some (.file bytes executable)) : l ≠ [] := by
  rintro rfl
  unfold entry? at hfile
  simp at hfile

/-- A file that is found stands where it is found. -/
theorem entry?_of_follow {links : Nat} {here : Location} {names : List String}
    (h : follow t links here names = .ok (l, .file bytes executable)) :
    t.entry? l = some (.file bytes executable) := by
  fun_induction follow t links here names with
  | case1 => simp at h
  | case2 _ _ _ _ _ ih => exact ih h
  | case3 _ _ _ _ ih => exact ih h
  | case4 => cases h
  | case5 _ _ _ _ _ _ _ ih => exact ih h
  | case6 links here name hstep hup bytes' executable' hentry =>
    cases h
    exact hentry
  | case7 => cases h
  | case8 => cases h
  | case9 =>
    rename_i ih
    exact ih h

/-- Without a file, only the paths that lead to it, or on from it, lead elsewhere: nowhere. -/
theorem follow_without (hfile : t.entry? l = some (.file bytes executable)) (links : Nat)
    (here : Location) (names : List String) :
    follow (t.without l) links here names = follow t links here names ∨
      (follow t links here names = .ok (l, .file bytes executable) ∨
        follow t links here names = .error .notDirectory) ∧
      follow (t.without l) links here names = .error .missing := by
  have hl := ne_nil_of_file hfile
  -- what is no file is still there
  have hkeep : ∀ k, t.entry? k ≠ some (.file bytes executable) →
      entry? (t.without l) k = t.entry? k := by
    intro k hk
    apply entry?_without_of_ne
    rintro rfl
    exact hk hfile
  fun_induction follow t links here names with
  | case1 => exact Or.inl (by rw [follow])
  | case2 links here name rest hskip ih =>
    rw [follow, if_pos hskip]
    exact ih
  | case3 links here rest hstep ih =>
    rw [follow, if_neg hstep, if_pos rfl]
    exact ih
  | case4 links here name rest hstep hup hentry =>
    rw [follow, if_neg hstep, if_neg hup, hkeep _ (by simp [hentry]), hentry]
    exact Or.inl rfl
  | case5 links here name rest hstep hup hentry ih =>
    rw [follow, if_neg hstep, if_neg hup, hkeep _ (by simp [hentry]), hentry]
    exact ih
  | case6 links here name hstep hup bytes' executable' hentry =>
    rw [follow, if_neg hstep, if_neg hup]
    -- at a file: it is the one that is taken away, or it stays
    by_cases hat : here ++ [name] = l
    · subst hat
      rw [entry?_without_self hl]
      obtain ⟨rfl, rfl⟩ : bytes' = bytes ∧ executable' = executable := by
        simpa using hentry.symm.trans hfile
      exact Or.inr ⟨Or.inl rfl, rfl⟩
    · rw [entry?_without_of_ne t hat, hentry]
      exact Or.inl rfl
  | case7 links here name rest hstep hup bytes' executable' hentry hmore =>
    rw [follow, if_neg hstep, if_neg hup]
    by_cases hat : here ++ [name] = l
    · subst hat
      rw [entry?_without_self hl]
      exact Or.inr ⟨Or.inr rfl, rfl⟩
    · rw [entry?_without_of_ne t hat, hentry]
      exact Or.inl (if_neg hmore)
  | case8 here name rest hstep hup target hentry =>
    rw [follow, if_neg hstep, if_neg hup, hkeep _ (by simp [hentry]), hentry]
    exact Or.inl rfl
  | case9 here name rest hstep hup target hentry links path =>
    rename_i ih
    rw [follow, if_neg hstep, if_neg hup, hkeep _ (by simp [hentry]), hentry]
    exact ih

end FileTree

namespace Machine

/-- The machine without what stands at a location. -/
def without (m : Machine) (l : Location) : Machine := { m with files := m.files.without l }

variable {m : Machine} {l : Location} {bytes : List UInt8} {executable : Bool} {p : Path}

theorem find_without (hfile : m.files.entry? l = some (.file bytes executable)) (p : Path) :
    (m.without l).find p = m.find p ∨
      (m.find p = .ok (l, .file bytes executable) ∨ m.find p = .error .notDirectory) ∧
      (m.without l).find p = .error .missing := by
  by_cases hp : p.text = ""
  · exact Or.inl ((if_pos hp).trans (if_pos hp).symm)
  · rw [find_eq_follow _ hp, find_eq_follow _ hp]
    exact FileTree.follow_without hfile _ _ _

theorem entry?_of_find (h : m.find p = .ok (l, .file bytes executable)) :
    m.files.entry? l = some (.file bytes executable) := by
  have hp : p.text ≠ "" := by
    intro hp
    rw [find, FileTree.find, if_pos hp] at h
    cases h
  rw [find_eq_follow m hp] at h
  exact FileTree.entry?_of_follow h

/-- The path of the file that is taken away leads nowhere. -/
theorem find_without_self (h : m.find p = .ok (l, .file bytes executable)) :
    (m.without l).find p = .error .missing := by
  have hfile := entry?_of_find h
  rcases find_without hfile p with heq | ⟨-, hmissing⟩
  · -- what is found in the smaller tree stands in it
    have hgone : FileTree.entry? (m.without l).files l = none :=
      FileTree.entry?_without_self (FileTree.ne_nil_of_file hfile)
    rw [entry?_of_find (heq.trans h)] at hgone
    cases hgone
  · exact hmissing

theorem isDirectory_without (hfile : m.files.entry? l = some (.file bytes executable)) (p : Path) :
    (m.without l).isDirectory p = m.isDirectory p := by
  unfold isDirectory
  rcases find_without hfile p with heq | ⟨heq | heq, hmissing⟩
  · rw [heq]
  · rw [heq, hmissing]
  · rw [heq, hmissing]

theorem isFile_without (hfile : m.files.entry? l = some (.file bytes executable))
    (hp : m.find p ≠ .ok (l, .file bytes executable)) : (m.without l).isFile p = m.isFile p := by
  unfold isFile
  rcases find_without hfile p with heq | ⟨heq | heq, hmissing⟩
  · rw [heq]
  · exact absurd heq hp
  · rw [heq, hmissing]

end Machine

namespace LocalProbe

open Text (trim)

/-! ## Homes without their release file -/

/-- `m'` lacks the release file of the home, and the home is otherwise as it is in `m`. -/
structure ReleaseRemoved (m m' : Machine) (home : Path) : Prop where
  absent : releaseFile m' home = .absent
  isValid_eq : Home.isValid m' home = Home.isValid m home
  hasCompiler_eq : Home.hasCompiler m' home = Home.hasCompiler m home

variable {m m' m'' : Machine} {home : Path}

/-- The file that the release file is found in may be taken away, unless it is a program of the home too. -/
theorem releaseRemoved_without {l : Location} {bytes : List UInt8} {executable : Bool}
    (h : m.find (home.join "release") = .ok (l, .file bytes executable))
    (hprograms : ∀ name, name = "java" ∨ name = "javac" →
      m.find (Home.program home name) ≠ .ok (l, .file bytes executable)) :
    ReleaseRemoved m (m.without l) home := by
  have hfile := Machine.entry?_of_find h
  constructor
  · unfold releaseFile
    rw [Machine.find_without_self h]
  · unfold Home.isValid
    rw [Machine.isDirectory_without hfile, Machine.isFile_without hfile (hprograms _ (Or.inl rfl))]
  · exact Machine.isFile_without hfile (hprograms _ (Or.inr rfl))

/-! ## What blanks do not change -/

theorem parse?_congr {version version' : String} (h : trim version = trim version') :
    Version.parse? version = Version.parse? version' := by
  have hbare : Version.bareText version.toList = Version.bareText version'.toList :=
    congrArg (Text.dropEnds (· = '"')) (String.ofList_injective h)
  unfold Version.parse?
  rw [hbare]

/-- The same is concluded from the same texts up to blanks, whatever the runtime of a vendor other than
Oracle. -/
theorem concluded_congr {version version' vendor vendor' : String} (runtime : Option String)
    (hversion : trim version = trim version') (hvendor : trim vendor = trim vendor')
    (ho : ¬ Text.Mentions vendor' "oracle")
    (hc : Home.hasCompiler m' home = Home.hasCompiler m home) :
    (∃ p, concluded m home ⟨version', vendor', none⟩ = .ok p ∧
      concluded m' home ⟨version, vendor, runtime⟩ = .ok p) ∨
    ∃ cause cause', concluded m home ⟨version', vendor', none⟩ = .error (.probe home cause) ∧
      concluded m' home ⟨version, vendor, runtime⟩ = .error (.probe home cause') := by
  have hname : Vendor.implementationName vendor runtime (Home.hasCompiler m' home)
      = Vendor.implementationName vendor' none (Home.hasCompiler m home) := by
    have hfalse : Vendor.isOracle vendor' = false :=
      Bool.eq_false_iff.mpr fun h => ho (Vendor.isOracle_iff.mp h)
    rw [Vendor.implementationName_congr hvendor, Vendor.implementationName_of_not_oracle hfalse, hc]
  unfold concluded
  dsimp only
  rw [parse?_congr hversion]
  cases Version.parse? version' with
  | none => exact Or.inr ⟨_, _, rfl, rfl⟩
  | some v =>
    refine Or.inl ⟨_, rfl, ?_⟩
    dsimp only
    rw [hname, hc]

/-! ## Both ways agree -/

/-- The program ended well and reported the version and the vendor, up to the blanks around them. -/
structure Reports (f : Finished) (version vendor : String) : Prop where
  status_eq : f.status = .code 0
  version_told : ∃ told, (settingsOf f).get? "java.version" = some told ∧ trim told = trim version
  vendor_told : ∃ told, (settingsOf f).get? "java.vendor" = some told ∧ trim told = trim vendor

variable {launch : Launcher} {f : Finished} {version vendor : String}

/-- A release file that names a version and a vendor other than Oracle makes no difference to a probe if
`java` reports the same two: it tells the same installation with and without the file, or fails for the home
both times. -/
theorem probe_agrees_without_release {content : String}
    (hrelease : releaseFile m home = .text content)
    (hversion : namedVersion? (Release.parse content) = some version)
    (hvendor : namedVendor? (Release.parse content) = some vendor)
    (horacle : ¬ Text.Mentions vendor "oracle") (hremoved : ReleaseRemoved m m' home)
    (hlaunch : launch (Home.program home "java") reportArguments m' = (.ok f, m''))
    (hreports : Reports f version vendor)
    (hcompiler : Home.hasCompiler m'' home = Home.hasCompiler m' home) :
    (∃ p, (probe launch home m).1 = .ok p ∧ (probe launch home m').1 = .ok p) ∨
    ∃ cause cause', (probe launch home m).1 = .error (.probe home cause) ∧
      (probe launch home m').1 = .error (.probe home cause') := by
  have hhome : IsHome m' home ↔ IsHome m home := by
    rw [isHome_iff, isHome_iff, hremoved.isValid_eq]
  by_cases hv : IsHome m home
  · have hb : (releaseFile m home).bindings? = some (Release.parse content) := by
      rw [hrelease]
      rfl
    obtain ⟨told, htold, hsame⟩ := hreports.version_told
    obtain ⟨told', htold', hsame'⟩ := hreports.vendor_told
    have hfast : probe launch home m = (concluded m home ⟨version, vendor, none⟩, m) := by
      rw [probe_run hv, readFacts_run_of_named hb hversion hvendor horacle]
    rw [hfast, probe_run_of_absent (hhome.mpr hv) hremoved.absent hlaunch hreports.status_eq htold, htold',
      Option.getD_some]
    dsimp only
    exact concluded_congr _ hsame hsame' horacle (hcompiler.trans hremoved.hasCompiler_eq)
  · rw [probe_run_of_not_home hv, probe_run_of_not_home (mt hhome.mp hv)]
    exact Or.inr ⟨_, _, rfl, rfl⟩

/-- A home with a release file, whose `java` reports its vendor among blanks: both probes succeed. -/
theorem probe_agrees_without_release_temurin :
    let content := "JAVA_VERSION=17\nIMPLEMENTOR=Temurin"
    let release := content.toList.map Char.toUInt8
    let reported := "java.version = 17\njava.vendor =   Temurin ".toList.map Char.toUInt8
    let f : Finished := { status := .code 0, errors := reported }
    let launch : Launcher := fun _ _ => pure (.ok f)
    let m : Machine := {
      files := ⟨[(["jdk"], .directory), (["jdk", "bin"], .directory),
        (["jdk", "bin", "java"], .file [] true), (["jdk", "release"], .file release false)]⟩
      workingDirectory := [], environment := [], accountHome := none }
    let m' := m.without ["jdk", "release"]
    ∃ p, p.version.major = 17 ∧ (probe launch ⟨"/jdk"⟩ m).1 = .ok p ∧
      (probe launch ⟨"/jdk"⟩ m').1 = .ok p := by
  intro content release reported f launch m m'
  have hsteps : Path.steps ⟨"/jdk"⟩ = ["jdk"] := by decide +kernel
  have hhome : m.find ⟨"/jdk"⟩ = .ok (["jdk"], .directory) := by
    refine Machine.find_eq_directory_iff.mpr ⟨by decide, ?_⟩
    rw [hsteps]
    simp [m, Machine.start, Path.isAbsolute, FileTree.follow, FileTree.entry?, List.lookup]
  have hrelease : m.find ((⟨"/jdk"⟩ : Path).join "release")
      = .ok (["jdk", "release"], .file release false) := by
    rw [Machine.find_join (by decide), hsteps]
    simp [m, Machine.start, Path.isAbsolute, FileTree.follow, FileTree.entry?, List.lookup]
  have hjava : m.find (Home.program ⟨"/jdk"⟩ "java") = .ok (["jdk", "bin", "java"], .file [] true) := by
    rw [Home.find_program (by decide), hsteps]
    simp [m, Machine.start, Path.isAbsolute, FileTree.follow, FileTree.entry?, List.lookup]
  have hjavac : m.find (Home.program ⟨"/jdk"⟩ "javac") = .error .missing := by
    rw [Home.find_program (by decide), hsteps]
    simp [m, Machine.start, Path.isAbsolute, FileTree.follow, FileTree.entry?, List.lookup]
  have hremoved : ReleaseRemoved m m' ⟨"/jdk"⟩ := by
    apply releaseRemoved_without hrelease
    rintro name (rfl | rfl)
    · simp [hjava]
    · simp [hjavac]
  have hdecode : Text.Utf8.decode? release = some content := by decide +kernel
  have htext : releaseFile m ⟨"/jdk"⟩ = .text content := by
    unfold releaseFile
    rw [hrelease]
    dsimp only
    rw [hdecode]
  have hreports : Reports f "17" "Temurin" :=
    ⟨rfl, ⟨"17", by decide +kernel, rfl⟩, ⟨"  Temurin", by decide +kernel, by decide +kernel⟩⟩
  have hvendor : ¬ Text.Mentions "Temurin" "oracle" := by
    rw [← Vendor.isOracle_iff]
    decide
  have hversion : namedVersion? (Release.parse content) = some "17" := by decide +kernel
  have hnamed : namedVendor? (Release.parse content) = some "Temurin" := by decide +kernel
  have hb : (releaseFile m ⟨"/jdk"⟩).bindings? = some (Release.parse content) := by
    rw [htext]
    rfl
  have hv : IsHome m ⟨"/jdk"⟩ := by
    rw [isHome_iff]
    simp [Home.isValid, Machine.isDirectory, Machine.isFile, hhome, hjava]
  have hparsed : Version.parse? "17" = some (.ofMajor 17) := by decide +kernel
  have hdecided : Decision launch ⟨"/jdk"⟩ m none (.ok _) m :=
    .byRelease hv hb hversion hnamed hvendor (.known hparsed)
  have hp := congrArg Prod.fst hdecided.probe_eq
  have hlaunch : launch (Home.program ⟨"/jdk"⟩ "java") reportArguments m' = (.ok f, m') := rfl
  rcases probe_agrees_without_release htext hversion hnamed hvendor hremoved hlaunch hreports rfl with
    ⟨p', hp', hsame⟩ | ⟨cause, _, hfails, -⟩
  · cases hp.symm.trans hp'
    exact ⟨_, rfl, hp, hsame⟩
  · cases hp.symm.trans hfails

end LocalProbe

end BuildJdk
