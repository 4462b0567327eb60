import BuildJdk.Handler
import BuildJdk.Proofs.Launcher
import BuildJdk.Proofs.Standing

/-!
# What a validation tells

A validation locates the current home, resolves the installations and checks one policy after the other.
It fails only before the first check: `FirstFailure` lists how, in order. If it does not, `Found` tells
which installations are checked, and `violationsOf` which rules they violate. Which homes are looked at is told by
what the layers of properties hold.

The labels are asked for at the absolute homes. So the probe must answer the same for an absolute home as for
the given one, and then no label fails any more once the set is resolved.
-/

namespace BuildJdk

variable {σ : Type}

namespace Handler

/-! ## Where the installations are -/

/-- The current home. -/
def located (H : Handler σ) (s : σ) : Except Failure Path :=
  Locate.currentHome (H.host.machine s) H.javaHome H.source

/-- In this state the current home is located so. -/
def Locates (H : Handler σ) (s : σ) (result : Except Failure Path) : Prop :=
  Locate.Located (H.host.machine s) H.source H.javaHome result

/-- The home that the layers of properties give to a key in this state, if they do. -/
def Names (H : Handler σ) (s : σ) (key : String) (home? : Option Path) : Prop :=
  H.source.Gives (H.host.machine s) key (home?.map (·.text))

/-- The failure that a validation ends with. Each case is one that comes after those above it. The home for tests
is looked up after the probe of the current home, and the one for compilation after that of the home for tests. -/
inductive FirstFailure (H : Handler σ) (answer : Path → Except Failure Probed) (s : σ) :
    Failure → Prop
  | location {e : Failure} : H.Locates s (.error e) → FirstFailure H answer s e
  | current {home : Path} {e : Failure} :
      H.Locates s (.ok home) → answer home = .error e → FirstFailure H answer s e
  | test {home test : Path} {p : Probed} {e : Failure} :
      H.Locates s (.ok home) → answer home = .ok p →
      H.Names (H.host.after [home] s) "testJavaHome" (some test) → answer test = .error e →
      FirstFailure H answer s e
  | compilation {home compilation : Path} {test? : Option Path} {p : Probed} {e : Failure} :
      H.Locates s (.ok home) → answer home = .ok p →
      H.Names (H.host.after [home] s) "testJavaHome" test? →
      (∀ test, test? = some test → ∃ p', answer test = .ok p') →
      p.version.major < H.config.requirements.compilationMajor →
      H.Names (H.host.after test?.toList (H.host.after [home] s)) "java9Home" (some compilation) →
      answer compilation = .error e → FirstFailure H answer s e

/-- The installation that compiles next to a current one. It is the current one itself if that is new enough, or if
no home for compilation is named. -/
inductive Compiles (H : Handler σ) (answer : Path → Except Failure Probed) (current : Standing) (s : σ) :
    Standing → Prop
  | newEnough : H.config.requirements.compilationMajor ≤ current.probed.version.major →
      Compiles H answer current s current
  | unnamed : current.probed.version.major < H.config.requirements.compilationMajor →
      H.Names s "java9Home" none → Compiles H answer current s current
  | named {given : Path} {own : Standing} :
      current.probed.version.major < H.config.requirements.compilationMajor →
      H.Names s "java9Home" (some given) → own.At H.host answer s given → Compiles H answer current s own

/-- The current installation and the one for compilation, if no probe fails. -/
structure Found (H : Handler σ) (answer : Path → Except Failure Probed) (s : σ) (home : Path)
    (test? : Option Path) (current compilation : Standing) : Prop where
  located : H.Locates s (.ok home)
  current_at : current.At H.host answer s home
  test_named : H.Names (H.host.after [home] s) "testJavaHome" test?
  test_ok : ∀ test, test? = some test → ∃ p, answer test = .ok p
  compiles : Compiles H answer current (H.host.after test?.toList (H.host.after [home] s)) compilation

end Handler

open BuildJdk.Action (Answers)

variable {P : σ → Prop} {answer : Path → Except Failure Probed}

namespace Handler

open CommandLine (PolicyChoice)
open Resolved (Assigned Course Kept Placed Tells)

variable {H : Handler σ} {s : σ}

/-! ## What is looked up -/

/-- The current home is the one that is located. -/
theorem locates_iff {result : Except Failure Path} : H.Locates s result ↔ H.located s = result :=
  Locate.located_iff

/-- The home that the layers give is the one that is looked up. -/
theorem names_iff {key : String} {home? : Option Path} : H.Names s key home? ↔
    Resolved.named? (H.host.machine s) H.source.lookup key = home? := by
  unfold Names Resolved.named?
  rw [Property.Source.gives_iff]
  show H.source.lookup (H.host.machine s) key = _ ↔ _
  constructor
  · intro h
    rw [h]
    cases home? <;> rfl
  · rintro rfl
    cases H.source.lookup (H.host.machine s) key <;> rfl

theorem exists_names (H : Handler σ) (s : σ) (key : String) : ∃ home?, H.Names s key home? :=
  ⟨_, names_iff.mpr rfl⟩

/-- As the installation that compiles is told, so the role of compilation is placed. -/
theorem Compiles.placed {current compilation : Standing} (hc : Compiles H answer current s compilation) :
    Placed H.host answer (Resolved.compilationHome? (H.host.machine s) H.config.requirements
      H.source.lookup current.probed.version.major) s current compilation := by
  cases hc with
  | newEnough hle =>
    rw [Resolved.compilationHome?_eq_none_iff.mpr (.inl hle)]
    exact ⟨fun _ => rfl, nofun⟩
  | unnamed _ hn =>
    rw [Resolved.compilationHome?_eq_none_iff.mpr (.inr (names_iff.mp hn))]
    exact ⟨fun _ => rfl, nofun⟩
  | named hlt hn hown =>
    rw [Resolved.compilationHome?_eq_some_iff.mpr ⟨hlt, names_iff.mp hn⟩]
    refine ⟨nofun, ?_⟩
    rintro _ ⟨⟩
    exact hown

/-! ## Resolving -/

/-- The home is located before anything is detected. -/
theorem resolve_eq (H : Handler σ) (cache : Bool) (s : σ) : H.resolve cache s =
    match H.located s with
    | .error e => (.error e, s)
    | .ok home => Resolved.resolveBy H.host H.config.requirements (cache || H.config.remoteCache) home
        H.source.lookup s := by
  have hlook : H.host.look s = (.ok (H.host.machine s), s) := rfl
  unfold resolve located
  rw [Action.run_bind_ok hlook]
  cases Locate.currentHome (H.host.machine s) H.javaHome H.source <;> rfl

theorem resolve_of_located {home : Path} (hl : H.located s = .ok home) (cache : Bool) :
    H.resolve cache s = Resolved.resolveBy H.host H.config.requirements
      (cache || H.config.remoteCache) home H.source.lookup s := by
  rw [resolve_eq, hl]

theorem resolve_of_not_located {e : Failure} (hl : H.located s = .error e) (cache : Bool) :
    H.resolve cache s = (.error e, s) := by
  rw [resolve_eq, hl]

/-- The first failure ends the resolution. -/
theorem FirstFailure.resolve_eq (hprobe : H.host.AnswersWithin P answer) (hs : P s) {e : Failure}
    (hf : FirstFailure H answer s e) (cache : Bool) : ∃ t, H.resolve cache s = (.error e, t) := by
  cases hf with
  | location hl => exact ⟨s, resolve_of_not_located (locates_iff.mp hl) cache⟩
  | @current home _ hl hcurrent =>
    have hcall := hprobe.probe_eq hs home
    rw [hcurrent] at hcall
    rw [resolve_of_located (locates_iff.mp hl)]
    exact ⟨_, (Course.currentFails hcall).resolveBy_eq⟩
  | @test home test p _ hl hcurrent hn htest =>
    have hcall := hprobe.probe_eq hs home
    have hcall' := hprobe.probe_eq (hprobe.after hs [home]) test
    rw [hcurrent] at hcall
    rw [htest] at hcall'
    rw [resolve_of_located (locates_iff.mp hl)]
    exact ⟨_, (Course.testFails hcall (names_iff.mp hn) hcall').resolveBy_eq⟩
  | @compilation home compilation test? p _ hl hcurrent hn hok hlt hn' hk =>
    have hs' := hprobe.after hs [home]
    have hcall := hprobe.probe_eq hs home
    have hcall' := hprobe.probe_eq (hprobe.after hs' test?.toList) compilation
    rw [hcurrent] at hcall
    rw [hk] at hcall'
    -- the tests have had their turn, with or without a home of their own
    obtain rfl := names_iff.mp hn
    obtain ⟨_, hplaced⟩ := Placed.exists H.host hok (H.host.after [home] s) ⟨home, p⟩
    obtain ⟨calls, hturn⟩ := hplaced.exists_turn hprobe hs'
    have hasked := Resolved.compilationHome?_eq_some_iff.mpr ⟨hlt, names_iff.mp hn'⟩
    rw [resolve_of_located (locates_iff.mp hl)]
    exact ⟨_, (Course.compilationFails hcall hturn hasked hcall').resolveBy_eq⟩

/-- Installations that are found can be assigned to the roles. -/
theorem Found.exists_assigned {home : Path} {test? : Option Path} {current compilation : Standing}
    (hf : Found H answer s home test? current compilation) :
    ∃ test, Assigned H.host answer H.config.requirements home H.source.lookup s
      (.byRole current test compilation) := by
  obtain rfl := names_iff.mp hf.test_named
  obtain ⟨test, htest⟩ := Placed.exists H.host hf.test_ok (H.host.after [home] s) current
  exact ⟨test, hf.current_at, htest, hf.compiles.placed⟩

/-- Without a failure the installations are resolved as they are found. -/
theorem Found.resolve_eq (hh : H.host.Settled P answer) (hs : P s) {home : Path} {test? : Option Path}
    {current compilation : Standing} (hf : Found H answer s home test? current compilation)
    (cache : Bool) :
    ∃ r t, H.resolve cache s = (.ok r, t) ∧ r.requirements = H.config.requirements ∧
      r.remoteCache = (cache || H.config.remoteCache) ∧ Kept answer P r (t, r) ∧
      Tells answer (r.installation .current) current ∧
      Tells answer (r.installation .compilation) compilation := by
  obtain ⟨test, ha⟩ := hf.exists_assigned
  obtain ⟨r, t, hrun, hq, hcache, hkept, htells, -⟩ :=
    ha.resolveBy_eq hh hs (cache || H.config.remoteCache)
  rw [resolve_of_located (locates_iff.mp hf.located)]
  exact ⟨r, t, hrun, hq, hcache, hkept, htells .current, htells .compilation⟩

theorem exists_at (h : Host σ) (s : σ) {given : Path} {p : Probed} (hp : answer given = .ok p) :
    ∃ i : Standing, i.probed = p ∧ i.At h answer s given :=
  ⟨⟨_, p⟩, rfl, hp, rfl⟩

section

variable {home : Path} {test? : Option Path} {current : Standing}

/-- Past the current home, the probe of the home for tests fails, or it succeeds if there is such a home. -/
theorem firstFailure_or_test_ok (hl : H.Locates s (.ok home)) {p : Probed}
    (hcurrent : answer home = .ok p) (hn : H.Names (H.host.after [home] s) "testJavaHome" test?) :
    (∃ e, FirstFailure H answer s e) ∨ ∀ test, test? = some test → ∃ p', answer test = .ok p' := by
  cases test? with
  | none => exact Or.inr nofun
  | some test =>
    cases htest : answer test with
    | error e => exact Or.inl ⟨e, .test hl hcurrent hn htest⟩
    | ok p' =>
      refine Or.inr ?_
      rintro _ ⟨⟩
      exact ⟨p', htest⟩

/-- Past the tests, the probe of the home for compilation fails or an installation compiles. -/
theorem firstFailure_or_compiles (hl : H.Locates s (.ok home)) (hat : current.At H.host answer s home)
    (hn : H.Names (H.host.after [home] s) "testJavaHome" test?)
    (hok : ∀ test, test? = some test → ∃ p, answer test = .ok p) :
    (∃ e, FirstFailure H answer s e) ∨ ∃ compilation,
      Compiles H answer current (H.host.after test?.toList (H.host.after [home] s)) compilation := by
  rcases Nat.lt_or_ge current.probed.version.major H.config.requirements.compilationMajor with
    hlt | hle
  · obtain ⟨given?, hgiven⟩ := exists_names H
      (H.host.after test?.toList (H.host.after [home] s)) "java9Home"
    cases given? with
    | none => exact Or.inr ⟨current, .unnamed hlt hgiven⟩
    | some given =>
      cases hk : answer given with
      | error e => exact Or.inl ⟨e, .compilation hl hat.answer_eq hn hok hlt hgiven hk⟩
      | ok p =>
        obtain ⟨own, -, hown⟩ := exists_at H.host _ hk
        exact Or.inr ⟨own, .named hlt hgiven hown⟩
  · exact Or.inr ⟨current, .newEnough hle⟩

end

/-- Either there is a first failure, or the installations are found. -/
theorem firstFailure_or_found (H : Handler σ) (answer : Path → Except Failure Probed) (s : σ) :
    (∃ e, FirstFailure H answer s e) ∨
      ∃ home test? current compilation, Found H answer s home test? current compilation := by
  obtain ⟨result, hl⟩ : ∃ result, H.Locates s result := ⟨_, locates_iff.mpr rfl⟩
  cases result with
  | error e => exact Or.inl ⟨e, .location hl⟩
  | ok home =>
    cases hcurrent : answer home with
    | error e => exact Or.inl ⟨e, .current hl hcurrent⟩
    | ok p =>
      obtain ⟨current, rfl, hat⟩ := exists_at H.host s hcurrent
      obtain ⟨test?, hn⟩ := exists_names H (H.host.after [home] s) "testJavaHome"
      rcases firstFailure_or_test_ok hl hcurrent hn with hfails | hok
      · exact Or.inl hfails
      · rcases firstFailure_or_compiles hl hat hn hok with hfails | ⟨compilation, hcompiles⟩
        · exact Or.inl hfails
        · exact Or.inr ⟨home, test?, current, compilation, hl, hat, hn, hok, hcompiles⟩

/-! ## Validations -/

theorem FirstFailure.validate_eq (hprobe : H.host.AnswersWithin P answer) (hs : P s) {e : Failure}
    (hf : FirstFailure H answer s e) (choices : List PolicyChoice) (cache : Bool) :
    (H.validate choices cache s).1 = .error e := by
  obtain ⟨t, ht⟩ := hf.resolve_eq hprobe hs cache
  unfold validate
  rw [Action.run_bind_error ht]

theorem Found.validate_eq (hh : H.host.Settled P answer) (hs : P s) {home : Path}
    {test? : Option Path} {current compilation : Standing}
    (hf : Found H answer s home test? current compilation) (choices : List PolicyChoice)
    (cache : Bool) :
    (H.validate choices cache s).1 = .ok ((selected choices).map fun policy =>
      { policy
        violations := violationsOf H.config.requirements (cache || H.config.remoteCache) current
          compilation policy }) := by
  obtain ⟨r, t, hrun, hq, hcache, hkept, hcurrent, hcompilation⟩ := hf.resolve_eq hh hs cache
  have hverdict : ∀ policy, Answers (Kept answer P r) (H.verdict policy)
      (.ok {
        policy
        violations := violationsOf H.config.requirements (cache || H.config.remoteCache) current
          compilation policy }) := by
    intro policy
    have hcheck := Kept.answers_check hh.within hcurrent hcompilation policy
    rw [hq, hcache] at hcheck
    exact hcheck.bind_ok (.pure _)
  unfold validate
  rw [Action.run_bind_ok hrun]
  exact (Answers.mapM hverdict (selected choices) (t, r) hkept).1

/-- A validation fails with the first failure, and only then. Otherwise it has a verdict on each chosen
policy, in the order of the choices, with exactly the violated rules. -/
theorem validate_iff {H : Handler σ} {P : σ → Prop} {answer : Path → Except Failure Probed}
    (hh : H.host.Settled P answer) {s : σ} (hs : P s) (choices : List PolicyChoice) (cache : Bool) :
    (∀ e, (H.validate choices cache s).1 = .error e ↔ FirstFailure H answer s e) ∧
    (∀ verdicts, (H.validate choices cache s).1 = .ok verdicts ↔
      ∃ home test? current compilation, Found H answer s home test? current compilation ∧
        verdicts = (if choices = [] then [.allBuilds, .compilation]
          else choices.map (·.policy)).map fun policy =>
            { policy
              violations := violationsOf H.config.requirements (cache || H.config.remoteCache)
                current compilation policy }) := by
  rcases firstFailure_or_found H answer s with ⟨e, hf⟩ | ⟨home, test?, current, compilation, hf⟩
  · have hrun := hf.validate_eq hh.within hs choices cache
    rw [hrun]
    refine ⟨fun e' => ⟨?_, fun hf' => ?_⟩, fun verdicts => ⟨?_, ?_⟩⟩
    · rintro ⟨⟩
      exact hf
    · rw [← hrun, hf'.validate_eq hh.within hs]
    · rintro ⟨⟩
    · rintro ⟨_, _, _, _, hf', -⟩
      rw [hf'.validate_eq hh hs] at hrun
      exact absurd hrun nofun
  · have hrun := hf.validate_eq hh hs choices cache
    rw [hrun]
    refine ⟨fun e => ⟨?_, fun hf' => ?_⟩, fun verdicts => ⟨?_, ?_⟩⟩
    · rintro ⟨⟩
    · rw [hf'.validate_eq hh.within hs] at hrun
      exact absurd hrun nofun
    · rintro ⟨⟩
      exact ⟨home, test?, current, compilation, hf, rfl⟩
    · rintro ⟨_, _, _, _, hf', rfl⟩
      rw [← hrun, hf'.validate_eq hh hs]
      rfl

/-- A blank value for the build hides neither the variable that names the current home nor the one that names a
home for tests, where the probe fails. With a home for tests in the layer between, Java 11 compiles next to the
current Java 8. -/
theorem validate_iff_overridden :
    let m : Machine := {
      files := .empty, workingDirectory := []
      environment := [("JAVA_HOME", "/jdk8"), ("testJavaHome", "gone")], accountHome := none }
    let jdk (major : Nat) : Probed :=
      { version := .ofMajor major, vendor := "OpenJDK", isJdk := true }
    let answer : Path → Except Failure Probed := fun home =>
      match [("/jdk8", 8), ("/jdk11", 11)].lookup home.text with
      | some major => .ok (jdk major)
      | none => .error (.probe home .notHome)
    let H (test : String) : Handler Nat := {
      host := .counting m answer, config := {}, javaHome := none
      source := .standard [("JAVA_HOME", " "), ("testJavaHome", ""), ("java9Home", "/jdk11")]
        [("testJavaHome", test)] }
    ((H "/jdk11").validate [] true 0).1 = .ok [
      { policy := .allBuilds, violations := [] },
      { policy := .compilation
        violations := [⟨.remoteCache, Rule.remoteCacheMessage {} "OpenJDK 8" ⟨"/jdk8"⟩⟩] }] ∧
    ((H " ").validate [] true 0).1 = .error (.probe ⟨"gone"⟩ .notHome) := by
  intro m jdk answer H
  have hh : ∀ test, (H test).host.Settled (fun _ => True) answer :=
    fun _ => Host.counting_settled_of_lookup m [("/jdk8", 8), ("/jdk11", 11)]
      (by decide +kernel) fun home p hanswer => by
        simp only [answer] at hanswer
        split at hanswer
        · exact ⟨_, ‹_›⟩
        · cases hanswer
  have habsolute : ∀ text ∈ ["/jdk8", "/jdk11"], (⟨text⟩ : Path) = m.absolute ⟨text⟩ := by decide +kernel
  have hlocated : ∀ test, (H test).Locates 0 (.ok ⟨"/jdk8"⟩) :=
    fun _ => .property (Property.Source.gives_iff.mpr rfl)
  constructor
  · let current : Standing := ⟨⟨"/jdk8"⟩, jdk 8⟩
    let compilation : Standing := ⟨⟨"/jdk11"⟩, jdk 11⟩
    have hcurrent : current.At (H "/jdk11").host answer 0 ⟨"/jdk8"⟩ :=
      ⟨rfl, habsolute _ (by simp)⟩
    have hcompilation : compilation.At (H "/jdk11").host answer 2 ⟨"/jdk11"⟩ :=
      ⟨rfl, habsolute _ (by simp)⟩
    refine ((validate_iff (hh _) trivial [] true).2 _).mpr
      ⟨⟨"/jdk8"⟩, some ⟨"/jdk11"⟩, current, compilation, ?_, ?_⟩
    · refine ⟨hlocated _, hcurrent, names_iff.mpr rfl, ?_, ?_⟩
      · rintro _ ⟨⟩
        exact ⟨_, rfl⟩
      · exact .named (by decide) (names_iff.mpr rfl) hcompilation
    · decide +kernel
  · exact ((validate_iff (hh _) trivial [] true).1 _).mpr
      (.test (hlocated _) rfl (names_iff.mpr rfl) rfl)

end Handler

end BuildJdk
