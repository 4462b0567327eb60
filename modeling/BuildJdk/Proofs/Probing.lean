import BuildJdk.Proofs.Action
import BuildJdk.Proofs.Vendor
import BuildJdk.Probe.Local

/-!
# What a probe decides

The release file of a home names a version and a vendor, or not, and `java` reports them, or fails.
`Decision` lists what comes of that: which of the two is asked, where the version and the vendor are taken
from, and each way to fail. Main statement: a probe follows it for every release file and every launcher.
-/

namespace BuildJdk.LocalProbe

/-- A path leads to a Java home: to a directory with a file `bin/java` in it. -/
def IsHome (m : Machine) (home : Path) : Prop :=
  m.isDirectory home = true ∧ m.isFile ((home.join "bin").join "java") = true

/-- These are the homes that the program takes for valid. -/
theorem isHome_iff {m : Machine} {home : Path} : IsHome m home ↔ Home.isValid m home = true :=
  (Bool.and_eq_true_iff).symm

/-! ## Release files -/

/-- A release file as it is found. -/
inductive ReleaseFile where
  | absent
  | notUtf8
  | text (content : String)

/-- The release file of a home. -/
def releaseFile (m : Machine) (home : Path) : ReleaseFile :=
  match m.find (home.join "release") with
  | .ok (_, .file bytes _) =>
    match Text.Utf8.decode? bytes with
    | some content => .text content
    | none => .notUtf8
  | _ => .absent

/-- The bindings of a release file that can be read. -/
def ReleaseFile.bindings? : ReleaseFile → Option Bindings
  | absent => some []
  | notUtf8 => none
  | text content => some (Release.parse content)

/-- The first value of some keys that is not blank. -/
def filled? (release : Bindings) (keys : List String) : Option String :=
  keys.findSome? fun key => (release.get? key).filter fun value => Text.trim value ≠ ""

/-- The version that a release file names. -/
def namedVersion? (release : Bindings) : Option String :=
  filled? release ["JAVA_VERSION", "JAVA_RUNTIME_VERSION"]

/-- The vendor that a release file names. -/
def namedVendor? (release : Bindings) : Option String := filled? release ["IMPLEMENTOR"]

/-- The release file leaves the version or the vendor open, or it is one of Oracle's. -/
def NeedsReport (release : Bindings) : Prop :=
  namedVersion? release = none ∨ namedVendor? release = none ∨
    ∃ vendor, namedVendor? release = some vendor ∧ Text.Mentions vendor "oracle"

theorem ReleaseFile.bindings?_eq_none_iff {file : ReleaseFile} :
    file.bindings? = none ↔ file = .notUtf8 := by
  cases file <;> simp [bindings?]

/-- A release file that is not there reads as an empty one, and only one that is not UTF-8 cannot be read. -/
theorem readRelease_eq (m : Machine) (home : Path) :
    readRelease m home = match (releaseFile m home).bindings? with
      | some release => .ok release
      | none => .error (.unreadable .notUtf8) := by
  unfold readRelease releaseFile Machine.isFile Machine.readText
  dsimp only
  generalize m.find (home.join "release") = found
  rcases found with e | ⟨l, _ | ⟨bytes, executable⟩ | target⟩
  · rfl
  · rfl
  · dsimp only
    cases Text.Utf8.decode? bytes <;> rfl
  · rfl

/-- A value that is blank counts as none. -/
theorem value?_eq (release : Bindings) (key : String) :
    value? release key = (release.get? key).filter fun value => Text.trim value ≠ "" := by
  have hfilled : (fun value => !Text.isAllBlank value) = fun value => decide (Text.trim value ≠ "") := by
    funext value
    rw [Bool.eq_iff_iff]
    simp [← Text.isAllBlank_iff]
  rw [value?, hfilled]

/-- The first of two values. -/
theorem findSome?_pair {α β : Type} (f : α → Option β) (a b : α) :
    [a, b].findSome? f = (f a).or (f b) := by
  cases h : f a <;> cases h' : f b <;> simp [h, h']

theorem version_ofBindings (release : Bindings) :
    (ReleaseFacts.ofBindings release).version = namedVersion? release := by
  show (value? release "JAVA_VERSION" <|> value? release "JAVA_RUNTIME_VERSION") = _
  unfold namedVersion? filled?
  rw [findSome?_pair, value?_eq, value?_eq, Option.orElse_eq_orElse, Option.orElse_eq_or]

theorem vendor_ofBindings (release : Bindings) :
    (ReleaseFacts.ofBindings release).vendor = namedVendor? release := by
  show value? release "IMPLEMENTOR" = _
  unfold namedVendor? filled?
  rw [value?_eq]
  simp

/-- Either the release file names a version and a vendor other than Oracle, or `java` is needed. -/
theorem named_or_needsReport (release : Bindings) :
    (∃ version vendor, namedVersion? release = some version ∧
      namedVendor? release = some vendor ∧ ¬ Text.Mentions vendor "oracle") ∨
    NeedsReport release := by
  cases hversion : namedVersion? release with
  | none => exact Or.inr (Or.inl hversion)
  | some version =>
    cases hvendor : namedVendor? release with
    | none => exact Or.inr (Or.inr (Or.inl hvendor))
    | some vendor =>
      by_cases ho : Text.Mentions vendor "oracle"
      · exact Or.inr (Or.inr (Or.inr ⟨vendor, hvendor, ho⟩))
      · exact Or.inl ⟨version, vendor, rfl, rfl, ho⟩

section

variable {release : Bindings} {version vendor : String}

theorem not_needsReport (hversion : namedVersion? release = some version)
    (hvendor : namedVendor? release = some vendor) (ho : ¬ Text.Mentions vendor "oracle") :
    ¬ NeedsReport release := by
  rintro (h | h | ⟨other, h, hother⟩)
  · simp [hversion] at h
  · simp [hvendor] at h
  · obtain rfl := Option.some.inj (hvendor.symm.trans h)
    exact ho hother

/-- A release file that leaves nothing open is enough. -/
theorem enough?_of_named (hversion : namedVersion? release = some version)
    (hvendor : namedVendor? release = some vendor) (ho : ¬ Text.Mentions vendor "oracle") :
    (ReleaseFacts.ofBindings release).enough? = some { version, vendor, runtime := none } := by
  have hfalse : ¬ Vendor.isOracle vendor = true := fun h => ho (Vendor.isOracle_iff.mp h)
  unfold ReleaseFacts.enough?
  rw [version_ofBindings, vendor_ofBindings, hversion, hvendor]
  exact if_neg hfalse

/-- A release file that leaves something open is not enough. -/
theorem enough?_of_needsReport (hneeds : NeedsReport release) :
    (ReleaseFacts.ofBindings release).enough? = none := by
  unfold ReleaseFacts.enough?
  rw [version_ofBindings, vendor_ofBindings]
  rcases hneeds with h | h | ⟨other, h, hother⟩
  · rw [h]
  · rw [h]
    cases namedVersion? release <;> rfl
  · rw [h]
    cases namedVersion? release with
    | none => rfl
    | some version => exact if_pos (Vendor.isOracle_iff.mpr hother)

end

/-! ## Reports -/

/-- The settings that `java` reports when it is run. -/
def settingsOf (finished : Finished) : Bindings :=
  Settings.parse (Text.Utf8.decodeLenient finished.errors)

/-- The release file can be read and leaves something open, so `java` is run: how that ends, and the
machine afterwards. -/
structure Asks (launch : Launcher) (home : Path) (m : Machine) (release : Bindings)
    (outcome : Except StartError Finished) (m' : Machine) : Prop where
  isHome : IsHome m home
  bindings_eq : (releaseFile m home).bindings? = some release
  needed : NeedsReport release
  launch_eq : launch ((home.join "bin").join "java") reportArguments m = (outcome, m')

/-! ## Decisions -/

/-- What is concluded about a home from a version text, a vendor and the name of a runtime. -/
inductive Conclusion (m : Machine) (home : Path) (version vendor : String)
    (runtime : Option String) : Except Failure Probed → Prop
  | known {v : Version} : Version.parse? version = some v →
      Conclusion m home version vendor runtime (.ok {
        version := v
        vendor := Vendor.implementationName vendor runtime (m.isFile ((home.join "bin").join "javac"))
        isJdk := m.isFile ((home.join "bin").join "javac") })
  | noVersion : Version.parse? version = none →
      Conclusion m home version vendor runtime (.error (.probe home (.badVersion version)))

/-- How `java` ended if it was run, what comes of the probe, and the machine afterwards. -/
inductive Decision (launch : Launcher) (home : Path) (m : Machine) :
    Option (Except StartError Finished) → Except Failure Probed → Machine → Prop
  | notHome : ¬ IsHome m home →
      Decision launch home m none (.error (.probe home .notHome)) m
  | unreadable : IsHome m home → releaseFile m home = .notUtf8 →
      Decision launch home m none (.error (.unreadable .notUtf8)) m
  | byRelease {release : Bindings} {version vendor : String} {result : Except Failure Probed} :
      IsHome m home → (releaseFile m home).bindings? = some release →
      namedVersion? release = some version → namedVendor? release = some vendor →
      ¬ Text.Mentions vendor "oracle" → Conclusion m home version vendor none result →
      Decision launch home m none result m
  | notStarted {release : Bindings} {e : StartError} {m' : Machine} :
      Asks launch home m release (.error e) m' →
      Decision launch home m (some (.error e)) (.error (.probe home (.notStarted e))) m'
  | exited {release : Bindings} {f : Finished} {m' : Machine} :
      Asks launch home m release (.ok f) m' → f.status ≠ .code 0 →
      Decision launch home m (some (.ok f)) (.error (.probe home (.exited f.status))) m'
  | notReported {release : Bindings} {f : Finished} {m' : Machine} :
      Asks launch home m release (.ok f) m' → f.status = .code 0 →
      (settingsOf f).get? "java.version" = none →
      Decision launch home m (some (.ok f)) (.error (.probe home .noVersion)) m'
  /-- The version of the release file comes before the reported one, the reported vendor before that of
  the release file. -/
  | byReport {release : Bindings} {f : Finished} {m' : Machine} {reported : String}
      {result : Except Failure Probed} :
      Asks launch home m release (.ok f) m' → f.status = .code 0 →
      (settingsOf f).get? "java.version" = some reported →
      Conclusion m' home ((namedVersion? release).getD reported)
        (((settingsOf f).get? "java.vendor").getD "") ((settingsOf f).get? "java.runtime.name")
        result →
      Decision launch home m (some (.ok f)) result m'

/-! ## The parts of a probe -/

variable {launch : Launcher} {home : Path} {m m' : Machine} {release : Bindings}

theorem readFacts_run (hb : (releaseFile m home).bindings? = some release) :
    readFacts launch home m =
      (match (ReleaseFacts.ofBindings release).enough? with
        | some facts => pure facts
        | none => do
          let outcome ← launch (Home.program home "java") reportArguments
          let reported ← reportedFacts home outcome
          return { reported with
            version := (namedVersion? release).getD reported.version } : Action Machine Facts) m := by
  have hrelease : readRelease m home = .ok release := by
    rw [readRelease_eq, hb]
  rw [← version_ofBindings]
  unfold readFacts
  rw [Action.run_bind_ok (Action.run_get m), hrelease]
  exact Action.run_bind_ok (Action.run_except _ m) _

/-- If the release file leaves nothing open, the facts are taken from it, and nothing is run. -/
theorem readFacts_run_of_named {version vendor : String}
    (hb : (releaseFile m home).bindings? = some release)
    (hversion : namedVersion? release = some version) (hvendor : namedVendor? release = some vendor)
    (ho : ¬ Text.Mentions vendor "oracle") :
    readFacts launch home m = (.ok { version, vendor, runtime := none }, m) := by
  rw [readFacts_run hb, enough?_of_named hversion hvendor ho]
  rfl

/-- If `java` is run, the facts are those that it reports, but for a version that the release file names. -/
theorem Asks.readFacts_run {outcome : Except StartError Finished}
    (ha : Asks launch home m release outcome m') :
    readFacts launch home m = ((reportedFacts home outcome).map fun reported =>
      { reported with version := (namedVersion? release).getD reported.version }, m') := by
  have hlaunch : launch (Home.program home "java") reportArguments m = (outcome, m') := ha.launch_eq
  have hrun : (liftM (launch (Home.program home "java") reportArguments) :
      Action Machine (Except StartError Finished)) m = (.ok outcome, m') := by
    rw [Action.run_state, hlaunch]
  rw [LocalProbe.readFacts_run ha.bindings_eq, enough?_of_needsReport ha.needed]
  dsimp only
  rw [Action.run_bind_ok hrun, Action.run_bind, Action.run_except]
  cases reportedFacts home outcome <;> rfl

theorem readFacts_run_error (hb : (releaseFile m home).bindings? = none) :
    readFacts launch home m = (.error (.unreadable .notUtf8), m) := by
  have hrelease : readRelease m home = .error (.unreadable .notUtf8) := by
    rw [readRelease_eq, hb]
  unfold readFacts
  rw [Action.run_bind_ok (Action.run_get m), hrelease, Action.run_bind_error (Action.run_except _ m)]

/-- What a probe makes of the facts. -/
def concluded (m : Machine) (home : Path) (facts : Facts) : Except Failure Probed :=
  match Version.parse? facts.version with
  | none => .error (.probe home (.badVersion facts.version))
  | some version =>
    let isJdk := Home.hasCompiler m home
    .ok { version, isJdk, vendor := Vendor.implementationName facts.vendor facts.runtime isJdk }

/-- A path that leads to no home is turned down before anything is read. -/
theorem probe_run_of_not_home (hv : ¬ IsHome m home) :
    probe launch home m = (.error (.probe home .notHome), m) := by
  have hinvalid : Home.isValid m home = false := by simpa [isHome_iff] using hv
  unfold probe
  rw [Action.run_bind_ok (Action.run_get m), hinvalid]
  rfl

/-- At a home the probe reads the facts and concludes from them, on the machine as it is then. -/
theorem probe_run (hv : IsHome m home) :
    probe launch home m = match readFacts launch home m with
      | (.error e, m') => (.error e, m')
      | (.ok facts, m') => (concluded m' home facts, m') := by
  unfold probe
  rw [Action.run_bind_ok (Action.run_get m), isHome_iff.mp hv]
  show (readFacts launch home >>= _) m = _
  rw [Action.run_bind]
  rcases readFacts launch home m with ⟨e | facts, m'⟩
  · rfl
  · dsimp only
    unfold concluded
    cases Version.parse? facts.version <;> rfl

theorem exists_conclusion (m : Machine) (home : Path) (version vendor : String)
    (runtime : Option String) : ∃ result, Conclusion m home version vendor runtime result := by
  cases hv : Version.parse? version with
  | none => exact ⟨_, .noVersion hv⟩
  | some v => exact ⟨_, .known hv⟩

/-- A conclusion is the one that the probe draws from the facts. -/
theorem Conclusion.eq_concluded {version vendor : String} {runtime : Option String}
    {result : Except Failure Probed} (hc : Conclusion m home version vendor runtime result) :
    result = concluded m home { version, vendor, runtime } := by
  unfold concluded
  cases hc with
  | known hv =>
    dsimp only
    rw [hv]
    rfl
  | noVersion hv =>
    dsimp only
    rw [hv]

/-! ## Every probe follows its decision -/

/-- What goes wrong with the report is what the probe fails with. -/
theorem Asks.probe_run_error {outcome : Except StartError Finished} {e : Failure}
    (ha : Asks launch home m release outcome m') (hr : reportedFacts home outcome = .error e) :
    probe launch home m = (.error e, m') := by
  rw [probe_run ha.isHome, ha.readFacts_run, hr]
  simp only [Except.map]

theorem Asks.probe_run_ok {outcome : Except StartError Finished} {reported : Facts}
    (ha : Asks launch home m release outcome m') (hr : reportedFacts home outcome = .ok reported) :
    probe launch home m = (concluded m' home { reported with
      version := (namedVersion? release).getD reported.version }, m') := by
  rw [probe_run ha.isHome, ha.readFacts_run, hr]
  simp only [Except.map]

theorem isSuccess_iff {status : ExitStatus} : status.isSuccess = true ↔ status = .code 0 :=
  decide_eq_true_iff

section

variable {f : Finished}

theorem reportedFacts_of_failed (hs : f.status ≠ .code 0) (home : Path) :
    reportedFacts home (.ok f) = .error (.probe home (.exited f.status)) :=
  if_neg fun h => hs (isSuccess_iff.mp h)

theorem reportedFacts_of_none (hs : f.status = .code 0)
    (hn : (settingsOf f).get? "java.version" = none) (home : Path) :
    reportedFacts home (.ok f) = .error (.probe home .noVersion) := by
  unfold settingsOf at hn
  unfold reportedFacts
  simp only [if_pos (isSuccess_iff.mpr hs), hn]

/-- A report of a version is taken with the vendor as it is reported, or an empty one. -/
theorem reportedFacts_of_some {version : String} (hs : f.status = .code 0)
    (hn : (settingsOf f).get? "java.version" = some version) (home : Path) :
    reportedFacts home (.ok f) = .ok {
      version
      vendor := ((settingsOf f).get? "java.vendor").getD ""
      runtime := (settingsOf f).get? "java.runtime.name" } := by
  unfold settingsOf at hn ⊢
  unfold reportedFacts
  simp only [if_pos (isSuccess_iff.mpr hs), hn]

end

/-- Without a release file, a probe concludes from what is reported. -/
theorem probe_run_of_absent {f : Finished} {told : String} (hv : IsHome m home)
    (habsent : releaseFile m home = .absent)
    (hlaunch : launch (Home.program home "java") reportArguments m = (.ok f, m'))
    (hs : f.status = .code 0) (hn : (settingsOf f).get? "java.version" = some told) :
    probe launch home m = (concluded m' home ⟨told, ((settingsOf f).get? "java.vendor").getD "",
      (settingsOf f).get? "java.runtime.name"⟩, m') := by
  have hb : (releaseFile m home).bindings? = some [] := by
    rw [habsent]
    rfl
  have hnone : namedVersion? [] = none := rfl
  have ha : Asks launch home m [] (.ok f) m' := ⟨hv, hb, Or.inl hnone, hlaunch⟩
  rw [ha.probe_run_ok (reportedFacts_of_some hs hn home), hnone, Option.getD_none]

/-- What is decided is what the probe comes to. -/
theorem Decision.probe_eq {run : Option (Except StartError Finished)}
    {result : Except Failure Probed} (hd : Decision launch home m run result m') :
    probe launch home m = (result, m') := by
  cases hd with
  | notHome hv => exact probe_run_of_not_home hv
  | unreadable hv hr =>
    rw [probe_run hv, readFacts_run_error (by rw [hr]; rfl)]
  | byRelease hv hb hversion hvendor ho hc =>
    rw [probe_run hv, readFacts_run_of_named hb hversion hvendor ho, hc.eq_concluded]
  | notStarted ha => exact ha.probe_run_error rfl
  | exited ha hs => exact ha.probe_run_error (reportedFacts_of_failed hs home)
  | notReported ha hs hn => exact ha.probe_run_error (reportedFacts_of_none hs hn home)
  | byReport ha hs hn hc =>
    rw [ha.probe_run_ok (reportedFacts_of_some hs hn home), hc.eq_concluded]

theorem Asks.exists_decision {outcome : Except StartError Finished}
    (ha : Asks launch home m release outcome m') :
    ∃ result, Decision launch home m (some outcome) result m' := by
  cases outcome with
  | error e => exact ⟨_, .notStarted ha⟩
  | ok f =>
    by_cases hs : f.status = .code 0
    · cases hn : (settingsOf f).get? "java.version" with
      | none => exact ⟨_, .notReported ha hs hn⟩
      | some reported =>
        obtain ⟨result, hc⟩ := exists_conclusion m' home ((namedVersion? release).getD reported)
          (((settingsOf f).get? "java.vendor").getD "") ((settingsOf f).get? "java.runtime.name")
        exact ⟨result, .byReport ha hs hn hc⟩
    · exact ⟨_, .exited ha hs⟩

/-- There is a decision for every home, every release file and every launcher. -/
theorem exists_decision (launch : Launcher) (home : Path) (m : Machine) :
    ∃ run result m', Decision launch home m run result m' := by
  by_cases hv : IsHome m home
  · cases hb : (releaseFile m home).bindings? with
    | none => exact ⟨none, _, m, .unreadable hv (ReleaseFile.bindings?_eq_none_iff.mp hb)⟩
    | some release =>
      rcases named_or_needsReport release with ⟨version, vendor, hversion, hvendor, ho⟩ | hneeds
      · obtain ⟨result, hc⟩ := exists_conclusion m home version vendor none
        exact ⟨none, result, m, .byRelease hv hb hversion hvendor ho hc⟩
      · rcases hrun : launch ((home.join "bin").join "java") reportArguments m with ⟨outcome, m'⟩
        have ha : Asks launch home m release outcome m' := ⟨hv, hb, hneeds, hrun⟩
        obtain ⟨result, hd⟩ := ha.exists_decision
        exact ⟨some outcome, result, m', hd⟩
  · exact ⟨none, _, m, .notHome hv⟩

/-- The probe comes to what is decided, and to nothing else. -/
theorem probe_eq_iff {result : Except Failure Probed} :
    probe launch home m = (result, m') ↔ ∃ run, Decision launch home m run result m' := by
  constructor
  · intro h
    obtain ⟨run, result', m'', hd⟩ := exists_decision launch home m
    obtain ⟨rfl, rfl⟩ := Prod.mk.inj (h.symm.trans hd.probe_eq)
    exact ⟨run, hd⟩
  · rintro ⟨run, hd⟩
    exact hd.probe_eq

/-! ## What decisions have in common -/

variable {run : Option (Except StartError Finished)} {result : Except Failure Probed}

/-- `java` is run just if the release file of the home can be read and leaves something open. -/
theorem Decision.isSome_run_iff (hd : Decision launch home m run result m')
    (hv : IsHome m home) (hb : (releaseFile m home).bindings? = some release) :
    run.isSome = true ↔ NeedsReport release := by
  have hasks : ∀ {r : Bindings} {outcome : Except StartError Finished},
      Asks launch home m r outcome m' → NeedsReport release := by
    intro r outcome ha
    rw [ha.bindings_eq] at hb
    exact Option.some.inj hb ▸ ha.needed
  cases hd with
  | notHome hv' => exact absurd hv hv'
  | unreadable _ hr =>
    rw [hr] at hb
    cases hb
  | byRelease _ hb' hversion hvendor ho _ =>
    obtain rfl := Option.some.inj (hb.symm.trans hb')
    simp [not_needsReport hversion hvendor ho]
  | notStarted ha => simp [hasks ha]
  | exited ha _ => simp [hasks ha]
  | notReported ha _ _ => simp [hasks ha]
  | byReport ha _ _ _ => simp [hasks ha]

/-- The outcome is that of the home's own `java`, run on the machine as it was. -/
theorem Decision.launch_eq {outcome : Except StartError Finished}
    (hd : Decision launch home m (some outcome) result m') :
    launch ((home.join "bin").join "java") reportArguments m = (outcome, m') := by
  cases hd with
  | notStarted ha => exact ha.launch_eq
  | exited ha _ => exact ha.launch_eq
  | notReported ha _ _ => exact ha.launch_eq
  | byReport ha _ _ _ => exact ha.launch_eq

/-- What is decided without a run does not depend on the launcher. -/
theorem Decision.of_not_run (hd : Decision launch home m none result m') (launch' : Launcher) :
    m' = m ∧ Decision launch' home m none result m := by
  cases hd with
  | notHome hv => exact ⟨rfl, .notHome hv⟩
  | unreadable hv hr => exact ⟨rfl, .unreadable hv hr⟩
  | byRelease hv hb hversion hvendor ho hc =>
    exact ⟨rfl, .byRelease hv hb hversion hvendor ho hc⟩

theorem Conclusion.isJdk_eq {version vendor : String} {runtime : Option String} {p : Probed}
    (hc : Conclusion m home version vendor runtime (.ok p)) :
    p.isJdk = m.isFile ((home.join "bin").join "javac") := by
  cases hc
  rfl

/-- The only failure of a conclusion is a version that cannot be read. -/
theorem Conclusion.error_eq {version vendor : String} {runtime : Option String} {e : Failure}
    (hc : Conclusion m home version vendor runtime (.error e)) :
    e = .probe home (.badVersion version) := by
  cases hc
  rfl

/-- A home is a JDK if its compiler is a file when the facts are concluded from. -/
theorem Decision.isJdk_eq {p : Probed} (hd : Decision launch home m run (.ok p) m') :
    p.isJdk = m'.isFile ((home.join "bin").join "javac") := by
  cases hd with
  | byRelease _ _ _ _ _ hc => exact hc.isJdk_eq
  | byReport _ _ _ hc => exact hc.isJdk_eq

theorem Asks.releaseFile_ne {outcome : Except StartError Finished}
    (ha : Asks launch home m release outcome m') : releaseFile m home ≠ .notUtf8 := by
  intro hr
  have hb := ha.bindings_eq
  rw [hr] at hb
  cases hb

/-- A probe fails either because the release file cannot be read, or with a cause of its own. -/
theorem Decision.error_cases {e : Failure} (hd : Decision launch home m run (.error e) m') :
    (e = .unreadable .notUtf8 ∧ IsHome m home ∧ releaseFile m home = .notUtf8) ∨
      ((∃ cause, e = .probe home cause) ∧
        ¬ (IsHome m home ∧ releaseFile m home = .notUtf8)) := by
  cases hd with
  | notHome hv => exact Or.inr ⟨⟨_, rfl⟩, fun h => hv h.1⟩
  | unreadable hv hr => exact Or.inl ⟨rfl, hv, hr⟩
  | byRelease _ hb _ _ _ hc =>
    refine Or.inr ⟨⟨_, hc.error_eq⟩, fun h => ?_⟩
    rw [h.2] at hb
    cases hb
  | notStarted ha => exact Or.inr ⟨⟨_, rfl⟩, fun h => ha.releaseFile_ne h.2⟩
  | exited ha _ => exact Or.inr ⟨⟨_, rfl⟩, fun h => ha.releaseFile_ne h.2⟩
  | notReported ha _ _ => exact Or.inr ⟨⟨_, rfl⟩, fun h => ha.releaseFile_ne h.2⟩
  | byReport ha _ _ hc => exact Or.inr ⟨⟨_, hc.error_eq⟩, fun h => ha.releaseFile_ne h.2⟩

/-- Nothing is run at a path that is no home, nor where the release file cannot be read. -/
theorem Decision.isHome_of_run {outcome : Except StartError Finished}
    (hd : Decision launch home m (some outcome) result m') :
    IsHome m home ∧ ∃ release, (releaseFile m home).bindings? = some release := by
  cases hd with
  | notStarted ha => exact ⟨ha.isHome, _, ha.bindings_eq⟩
  | exited ha _ => exact ⟨ha.isHome, _, ha.bindings_eq⟩
  | notReported ha _ _ => exact ⟨ha.isHome, _, ha.bindings_eq⟩
  | byReport ha _ _ _ => exact ⟨ha.isHome, _, ha.bindings_eq⟩

/-- A probe comes to just what is decided. `java` is run only at a home with a release file that can be
read and that leaves the version or the vendor open or names Oracle; nothing else about the launcher
matters then or otherwise. The release file is to blame just if it cannot be read; every other failure is
one of the probe, for this home. -/
theorem probe_iff_decision (launch : Launcher) (home : Path) (m m' : Machine)
    (result : Except Failure Probed) :
    (probe launch home m = (result, m') ↔ ∃ run, Decision launch home m run result m') ∧
    ∀ run, Decision launch home m run result m' →
      (run.isSome = true ↔ IsHome m home ∧
        ∃ release, (releaseFile m home).bindings? = some release ∧
          (namedVersion? release = none ∨ namedVendor? release = none ∨
            ∃ vendor, namedVendor? release = some vendor ∧ Text.Mentions vendor "oracle")) ∧
      (∀ outcome, run = some outcome →
        launch ((home.join "bin").join "java") reportArguments m = (outcome, m')) ∧
      (run = none → m' = m ∧ ∀ launch', probe launch' home m = (result, m)) ∧
      (∀ p, result = .ok p → (p.isJdk = true ↔ m'.isFile ((home.join "bin").join "javac") = true)) ∧
      ((∃ e, result = .error (.unreadable e)) ↔
        IsHome m home ∧ releaseFile m home = .notUtf8) ∧
      (∀ e, result = .error e →
        (∃ reason, e = .unreadable reason) ∨ ∃ cause, e = .probe home cause) := by
  refine ⟨probe_eq_iff, fun run hd => ⟨?_, ?_, ?_, ?_, ?_, ?_⟩⟩
  · constructor
    · intro hrun
      obtain ⟨outcome, rfl⟩ := Option.isSome_iff_exists.mp hrun
      obtain ⟨hv, release, hb⟩ := hd.isHome_of_run
      exact ⟨hv, release, hb, (hd.isSome_run_iff hv hb).mp rfl⟩
    · rintro ⟨hv, release, hb, hneeds⟩
      exact (hd.isSome_run_iff hv hb).mpr hneeds
  · rintro outcome rfl
    exact hd.launch_eq
  · rintro rfl
    exact ⟨(hd.of_not_run launch).1, fun launch' => (hd.of_not_run launch').2.probe_eq⟩
  · rintro p rfl
    rw [hd.isJdk_eq]
  · constructor
    · rintro ⟨e, rfl⟩
      rcases hd.error_cases with ⟨-, hv, hr⟩ | ⟨⟨cause, hcause⟩, -⟩
      · exact ⟨hv, hr⟩
      · cases hcause
    · rintro ⟨hv, hr⟩
      -- there is one decision only, so it is that for a file that cannot be read
      have hunreadable : Decision launch home m none (.error (.unreadable .notUtf8)) m :=
        .unreadable hv hr
      obtain ⟨rfl, -⟩ := Prod.mk.inj (hd.probe_eq.symm.trans hunreadable.probe_eq)
      exact ⟨_, rfl⟩
  · rintro e rfl
    rcases hd.error_cases with ⟨rfl, -⟩ | ⟨hcause, -⟩
    · exact Or.inl ⟨_, rfl⟩
    · exact Or.inr hcause

end BuildJdk.LocalProbe
