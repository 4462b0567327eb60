import BuildJdk.Proofs.Oracle
import BuildJdk.Proofs.Reply

/-!
# Labels fit versions

The version of an installation is told by a probe of the given home, its label by a later one of the absolute
home. Where nothing changes on the machine, the probe that looks at the machine is settled: both paths lead
to the same place, and all that it looks at and all that it runs stands there.

Main statement: a label is the probed vendor with the number that the version has. So nothing that is asked
of a resolved set fails, but a validation for the rules that are violated.
-/

namespace BuildJdk

open LocalProbe (reportArguments)

/-- What a program does depends on the place that its path leads to, and a report leaves the machine as it
is. -/
structure Launcher.Settled (launch : Launcher) (m : Machine) : Prop where
  byPlace : launch.ByPlace m
  keeps : ∀ program, (launch program reportArguments m).2 = m

namespace LocalProbe

open Installation (Detected)
open Resolved (Steady Tells resolveBy)

variable {launch : Launcher} {home : Path} {m m' : Machine}

/-! ## A settled probe -/

theorem Decision.machine_eq {run : Option (Except StartError Finished)}
    {result : Except Failure Probed} (hl : launch.Settled m)
    (hd : Decision launch home m run result m') : m' = m := by
  have hasks : ∀ {release outcome}, Asks launch home m release outcome m' → m' = m := by
    intro release outcome ha
    rw [← hl.keeps ((home.join "bin").join "java"), ha.launch_eq]
  cases hd with
  | notHome => rfl
  | unreadable => rfl
  | byRelease => rfl
  | notStarted ha => exact hasks ha
  | exited ha => exact hasks ha
  | notReported ha => exact hasks ha
  | byReport ha => exact hasks ha

theorem probe_machine_eq (hl : launch.Settled m) (home : Path) : (probe launch home m).2 = m := by
  obtain ⟨run, hd⟩ := probe_eq_iff.mp (show probe launch home m = (_, _) from rfl)
  exact hd.machine_eq hl

theorem probe_eq_of_ok {p : Probed} (hl : launch.Settled m) (hp : (probe launch home m).1 = .ok p) :
    probe launch home m = (.ok p, m) :=
  Prod.ext hp (probe_machine_eq hl home)

/-- On a machine that stays as it is the probe tells the same by every spelling of a home. -/
theorem settled_host (hm : m.Grounded) (hl : launch.Settled m) :
    (host launch).Settled ((host launch).machine · = m) fun home => (probe launch home m).1 where
  within home s hs := by
    obtain rfl : s = m := hs
    exact ⟨rfl, probe_machine_eq hl home⟩
  absolute s home p hs hp := by
    obtain rfl : s = m := hs
    have hagain := probe_eq_of_alike (hm.alike_absolute home) hl.byPlace (probe_eq_of_ok hl hp)
    exact congrArg Prod.fst hagain

/-! ## Installations -/

/-- Whatever was asked of an installation since it was detected, its label is that of its version. -/
theorem label_of_detected (hm : m.Grounded) (hl : launch.Settled m) {i : Installation}
    (hi : Detected (host launch) home m i) :
    ∃ p, probe launch home m = (.ok p, m) ∧ i.home = m.absolute home ∧ i.version = p.version ∧
      (Installation.label (host launch) (m, i)).1
        = .ok (p.vendor ++ " " ++ i.version.major.repr) := by
  obtain ⟨p, hcall, hversion⟩ := hi.fits.version_eq
  have hagain : probe launch i.home m = (.ok p, m) := by
    rw [hi.fits.home_eq]
    exact probe_eq_of_alike (hm.alike_absolute home) hl.byPlace hcall
  refine ⟨p, hcall, hi.fits.home_eq, hversion, ?_⟩
  rw [hversion]
  cases hknown : i.knownLabel with
  | none => rw [Installation.label_of_told hknown hagain]; rfl
  | some label =>
    obtain ⟨p', hcall', rfl⟩ := hi.fits.label_told label hknown
    cases hagain.symm.trans hcall'
    unfold Installation.label
    simp only [hknown]
    rfl

theorem detected_of_detect (hl : launch.Settled m) {current : Bool} {i : Installation}
    (hd : Installation.detect (host launch) current home m = (.ok i, m')) :
    m' = m ∧ Detected (host launch) home m i := by
  obtain ⟨p, hcall, -⟩ := Installation.detect_ok hd
  obtain ⟨run, hdecision⟩ := probe_eq_iff.mp hcall
  obtain rfl := hdecision.machine_eq hl
  exact ⟨rfl, .detect hd⟩

/-! ## Resolved sets -/

/-- How the installations of a resolved set stand, and that it is steady. -/
theorem exists_steady (hm : m.Grounded) (hl : launch.Settled m) {q : Requirements} {cache : Bool}
    {lookup : Property.Lookup} {r : Resolved}
    (hres : resolveBy (host launch) q cache home lookup m = (.ok r, m')) :
    ∃ st : Role → Standing,
      (∀ role, Tells (fun home => (probe launch home m).1) (r.installation role) (st role)) ∧
      Steady (host launch) (fun home => (probe launch home m).1) m r (m', r) := by
  obtain ⟨st, -, -, -, hkept, htells, -⟩ := Resolved.exists_assigned (settled_host hm hl) rfl hres
  obtain ⟨calls, hc⟩ := Resolved.Course.of_resolveBy hres
  obtain rfl : m' = m := hkept.state
  exact ⟨st, htells, hc.steady m'⟩

/-- On a machine that stays as it is, a detected installation has the label of its version, whatever was asked
of it since. A resolved set replies as the versions and labels of its installations tell: a message that
names an installation has the major number that was compared. Nothing fails but a validation for the rules
that are violated. -/
theorem labels_fit_versions {launch : Launcher} {m : Machine} (hm : m.Grounded)
    (hl : launch.Settled m) :
    (∀ current home i m', Installation.detect (host launch) current home m = (.ok i, m') →
      m' = m ∧ Detected (host launch) home m i) ∧
    (∀ home i, Detected (host launch) home m i →
      ∃ p, probe launch home m = (.ok p, m) ∧ i.home = m.absolute home ∧ i.version = p.version ∧
        (Installation.label (host launch) (m, i)).1
          = .ok (p.vendor ++ " " ++ i.version.major.repr)) ∧
    (∀ q cache home lookup r m', resolveBy (host launch) q cache home lookup m = (.ok r, m') →
      ∃ st : Role → Standing,
        (∀ role, (st role).home = (r.installation role).home ∧
          probe launch (st role).home m = (.ok (st role).probed, m) ∧
          (st role).probed.version = (r.installation role).version ∧
          (st role).probed.label
            = (st role).probed.vendor ++ " " ++ (r.installation role).version.major.repr) ∧
        ∀ requests request x, (Request.run (host launch) requests (m', r)).2 = x →
          (∀ reply, Request.replyOf m r st request = some reply →
            (request.ask (host launch) x).1 = reply) ∧
          ∀ e, (request.ask (host launch) x).1 = .error e → ∃ messages, e = .violated messages) := by
  refine ⟨fun _ _ _ _ => detected_of_detect hl, fun _ _ => label_of_detected hm hl, ?_⟩
  intro q cache home lookup r m' hres
  have hprobe := (settled_host hm hl).within
  obtain ⟨st, htells, hsteady⟩ := exists_steady hm hl hres
  refine ⟨st, fun role => ?_, ?_⟩
  · refine ⟨(htells role).home_eq.symm, probe_eq_of_ok hl (htells role).answer_eq,
      (htells role).version_eq.symm, ?_⟩
    rw [(htells role).version_eq]
    rfl
  · rintro requests request x rfl
    -- whatever was asked before, the set is as steady as when it was resolved
    have hx := Request.steady_run hprobe hsteady requests
    exact ⟨fun reply hr => (Request.answers_replyOf hprobe htells hr _ hx).1,
      fun e => Request.violated_of_ask hprobe htells hx⟩

/-- A home behind a link and with steps back, whose release file is enough. -/
theorem labels_fit_versions_linked :
    let release := "JAVA_VERSION=\"11.0.2\"\nIMPLEMENTOR=\"Eclipse Adoptium\"\n"
    let m : Machine := {
      files := ⟨[(["w"], .directory), (["w", "cur"], .link "../jdk"), (["jdk"], .directory),
        (["jdk", "bin"], .directory), (["jdk", "bin", "java"], .file [] true),
        (["jdk", "release"], .file (release.toList.map Char.toUInt8) false)]⟩
      workingDirectory := ["w"], environment := [], accountHome := none }
    let launch : Launcher := fun _ _ => pure (.error .missing)
    let home : Path := ⟨".././w//cur/"⟩
    ∃ i r, Installation.detect (host launch) true home m = (.ok i, m) ∧ i.home ≠ home ∧
      (Installation.label (host launch) (m, i)).1 = .ok ("Eclipse Temurin" ++ " " ++ (11).repr) ∧
      resolveBy (host launch) {} true home (fun _ _ => none) m = (.ok r, m) ∧
      ∀ requests x, (Request.run (host launch) requests (m, r)).2 = x →
        (Request.ask (host launch) (.label .test) x).1
          = .ok (.text ("Eclipse Temurin" ++ " " ++ (11).repr)) := by
  intro release m launch home
  have hsteps : home.steps = ["..", "w", "cur"] := by decide +kernel
  have hstart : m.start home = ["w"] := by decide +kernel
  have htarget : (⟨"../jdk"⟩ : Path).pieces.map String.ofList = ["..", "jdk"] := by decide +kernel
  have hrelative : (⟨"../jdk"⟩ : Path).isAbsolute = false := by decide +kernel
  have hfollow : ∀ names, m.files.follow FileTree.linkLimit ["w"] (["..", "w", "cur"] ++ names)
      = m.files.follow 39 ["jdk"] names := by
    intro names
    simp [m, FileTree.linkLimit, FileTree.follow, FileTree.entry?, List.lookup, htarget, hrelative]
  have hhome : m.find home = .ok (["jdk"], .directory) := by
    have hdirectory := hfollow []
    rw [List.append_nil, FileTree.follow.eq_1] at hdirectory
    rw [Machine.find_eq_directory_iff, hsteps, hstart]
    exact ⟨by decide, hdirectory⟩
  have hprogram : ∀ name, IsName name → m.find (Home.program home name)
      = m.files.follow 39 ["jdk"] ["bin", name] := by
    intro name hname
    rw [Home.find_program hname, hsteps, hstart, hfollow]
  have hvalid : Home.isValid m home = true := by
    have hjava : m.find (Home.program home "java") = .ok (["jdk", "bin", "java"], .file [] true) := by
      rw [hprogram _ (by decide)]
      simp [m, FileTree.follow, FileTree.entry?, List.lookup]
    simp [Home.isValid, Machine.isDirectory, Machine.isFile, hhome, hjava]
  have hcompiler : m.isFile (Home.program home "javac") = false := by
    have hjavac : m.find (Home.program home "javac") = .error .missing := by
      rw [hprogram _ (by decide)]
      simp [m, FileTree.follow, FileTree.entry?, List.lookup]
    simp [Machine.isFile, hjavac]
  have hbindings : (releaseFile m home).bindings?
      = some [("JAVA_VERSION", "11.0.2"), ("IMPLEMENTOR", "Eclipse Adoptium")] := by
    have hfind : m.find (home.join "release")
        = .ok (["jdk", "release"], .file (release.toList.map Char.toUInt8) false) := by
      rw [Machine.find_join (by decide), hsteps, hstart, hfollow]
      simp [m, FileTree.follow, FileTree.entry?, List.lookup]
    have hdecode : Text.Utf8.decode? (release.toList.map Char.toUInt8) = some release := by
      decide +kernel
    unfold releaseFile
    simp only [hfind, hdecode]
    decide +kernel
  let p : Probed := {
    version := ⟨"11.0.2", 11, some 0, some 2⟩, vendor := "Eclipse Temurin", isJdk := false }
  have hprobe : probe launch home m = (.ok p, m) := by
    have hother : ¬ Text.Mentions "Eclipse Adoptium" "oracle" := by
      rw [← Vendor.isOracle_iff]
      decide +kernel
    have hparse : Version.parse? "11.0.2" = some p.version := by decide +kernel
    have hname : Vendor.implementationName "Eclipse Adoptium" none false = "Eclipse Temurin" := by
      decide +kernel
    have hconclusion : Conclusion m home "11.0.2" "Eclipse Adoptium" none _ := .known hparse
    have hjavac : m.isFile ((home.join "bin").join "javac") = false := hcompiler
    rw [hjavac, hname] at hconclusion
    exact (Decision.byRelease (isHome_iff.mpr hvalid) hbindings (by decide +kernel) (by decide +kernel) hother
      hconclusion).probe_eq
  have hgrounded : m.Grounded := by
    refine ⟨by decide, fun front name hfront => ?_⟩
    cases front with
    | nil =>
      obtain rfl : name = "w" := by simpa [m] using hfront
      decide
    | cons first front =>
      have hlength := hfront.length_le
      simp [m] at hlength
  have hsettled : launch.Settled m := ⟨fun _ _ _ _ => rfl, fun _ => rfl⟩
  obtain ⟨hdetect, hlabel, hset⟩ := labels_fit_versions hgrounded hsettled
  have hdetected := Resolved.detect_ok (h := host launch) hprobe true
  obtain ⟨p', hp', -, hversion, htold⟩ := hlabel _ _ (hdetect _ _ _ _ hdetected).2
  cases hprobe.symm.trans hp'
  have hc : Resolved.Course (host launch) {} true home (fun _ _ => none) m _ (.ok _) m :=
    .done hprobe (.skipped m) (.skipped m)
  obtain ⟨st, hst, hreplies⟩ := hset _ _ _ _ _ _ hc.resolveBy_eq
  refine ⟨_, _, hdetected, by decide +kernel, htold, hc.resolveBy_eq, fun requests x hx => ?_⟩
  have hagain := probe_eq_of_alike (hgrounded.alike_absolute home) hsettled.byPlace hprobe
  obtain ⟨hat, hcall, -⟩ := hst .test
  rw [hat] at hcall
  have hsame : (st .test).probed = p := Except.ok.inj (Prod.mk.inj (hcall.symm.trans hagain)).1
  rw [(hreplies requests (.label .test) x hx).1 _ rfl, hsame]
  rfl

end LocalProbe

end BuildJdk
