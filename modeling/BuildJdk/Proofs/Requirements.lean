import BuildJdk.Proofs.Label
import BuildJdk.Proofs.Standing

/-!
# Stricter and laxer requirements

The least major version for compilation is looked at twice: it decides whether compilation gets an
installation of its own, and then it judges the one that compilation has. So with other requirements
another installation may be judged.

Main statements: a build that passes still does with laxer requirements and a newer current installation. And
one that passes the rule for production passes every other one, if the number in the required label is
large enough for the rules about versions.
-/

namespace BuildJdk

variable {σ : Type} {h : Host σ} {P : σ → Prop} {answer : Path → Except Failure Probed}

/-- The major number comes first in the order of versions. -/
theorem Version.major_le_of_compare_ne_gt {v w : Version} (hvw : v.compare w ≠ .gt) :
    v.major ≤ w.major := by
  rcases Nat.lt_or_ge w.major v.major with hlt | hle
  · have hgt : Ord.compare v.major w.major = .gt := Nat.compare_eq_gt.mpr hlt
    refine absurd ?_ hvw
    unfold Version.compare numbers
    rw [List.compare_eq_compareLex, List.compareLex_cons_cons, hgt]
    rfl
  · exact hle

/-! ## Satisfied policies -/

namespace Handler

/-- What a policy asks of the current installation and of the one for compilation. -/
def Satisfied (q : Requirements) (cache : Bool) (current compilation : Standing) : Policy → Prop
  | .allBuilds => q.buildMajor ≤ current.probed.version.major
  | .compilation =>
    (cache = true → current.probed.label = q.vendorLabel) ∧
      q.compilationMajor ≤ compilation.probed.version.major
  | .remoteCache => current.probed.label = q.vendorLabel
  | .production => current.probed.label = q.vendorLabel

theorem tooOld_eq_none_iff {major : Nat} {policy : Policy} {message : String → Path → String}
    {i : Standing} : tooOld major policy message i = none ↔ major ≤ i.probed.version.major := by
  unfold tooOld
  by_cases hlt : i.probed.version.major < major
  · rw [if_pos hlt]
    exact iff_of_false nofun (by omega)
  · rw [if_neg hlt]
    exact iff_of_true rfl (by omega)

theorem mislabelled_eq_none_iff {required : String} {policy : Policy}
    {message : String → Path → String} {i : Standing} :
    mislabelled required policy message i = none ↔ i.probed.label = required := by
  unfold mislabelled
  by_cases hlabel : i.probed.label = required
  · rw [if_pos hlabel]
    exact iff_of_true rfl hlabel
  · rw [if_neg hlabel]
    exact iff_of_false nofun hlabel

/-- No rule is violated just if the policy is satisfied. -/
theorem violationsOf_eq_nil_iff {q : Requirements} {cache : Bool} {current compilation : Standing}
    {policy : Policy} :
    violationsOf q cache current compilation policy = [] ↔
      Satisfied q cache current compilation policy := by
  unfold violationsOf Satisfied
  cases policy with
  | allBuilds => rw [Option.toList_eq_nil_iff, tooOld_eq_none_iff]
  | remoteCache => rw [Option.toList_eq_nil_iff, mislabelled_eq_none_iff]
  | production => rw [Option.toList_eq_nil_iff, mislabelled_eq_none_iff]
  | compilation =>
    rw [List.append_eq_nil_iff, Option.toList_eq_nil_iff, Option.toList_eq_nil_iff,
      tooOld_eq_none_iff]
    cases cache with
    | true => simp [mislabelled_eq_none_iff]
    | false => simp

end Handler

namespace Resolved

open BuildJdk.Action (Answers)
open Handler (Satisfied violationsOf violationsOf_eq_nil_iff)

variable {q q' : Requirements} {home home' : Path} {lookup : Property.Lookup} {s s' t : σ}
  {r : Resolved} {st st' : Role → Standing} {cache : Bool}

theorem judged_eq_ok_iff {vs : List Violation} : judged vs = .ok () ↔ vs = [] := by
  unfold judged
  by_cases hvs : vs = []
  · rw [if_pos hvs]
    exact iff_of_true rfl hvs
  · rw [if_neg hvs]
    exact iff_of_false nofun hvs

/-! ## Laxer requirements -/

section

variable (hh : h.Settled P answer)
  (hsource : ∀ u v, P u → P v → lookup (h.machine u) = lookup (h.machine v))
  (hs : P s) (hs' : P s') (hq : q'.compilationMajor ≤ q.compilationMajor)

include hh hsource hs hs'

/-- Wherever the source is asked it names the same homes. -/
theorem named?_after (homes homes' : List Path) (key : String) :
    named? (h.machine (h.after homes s)) lookup key
      = named? (h.machine (h.after homes' s')) lookup key := by
  unfold named?
  rw [hsource _ _ (hh.within.after hs homes) (hh.within.after hs' homes')]

theorem named?_afterTest (key : String) :
    named? (h.machine (afterTest h lookup home s)) lookup key
      = named? (h.machine (afterTest h lookup home' s')) lookup key :=
  named?_after hh hsource (hh.within.after hs _) (hh.within.after hs' _) _ _ key

include hq

/-- Compilation only loses its own home. -/
theorem compilationHome?_of_laxer {major major' : Nat} (hmajor : major ≤ major') {given : Path}
    (hgiven : compilationHome? (h.machine (afterTest h lookup home' s')) q' lookup major'
      = some given) :
    compilationHome? (h.machine (afterTest h lookup home s)) q lookup major = some given := by
  obtain ⟨hlt, hnamed⟩ := compilationHome?_eq_some_iff.mp hgiven
  refine compilationHome?_eq_some_iff.mpr ⟨by omega, ?_⟩
  rw [named?_afterTest hh hsource hs hs', hnamed]

/-- The roles that could be assigned still can. -/
theorem Assigned.exists_laxer (ha : Assigned h answer q home lookup s st) {p' : Probed}
    (hanswer : answer home' = .ok p')
    (hmajor : (st .current).probed.version.major ≤ p'.version.major) :
    ∃ st', Assigned h answer q' home' lookup s' st' ∧ (st' .current).probed = p' := by
  let current : Standing := ⟨(h.machine (h.after [home'] s')).absolute home', p'⟩
  have htest : ∀ given, named? (h.machine (h.after [home'] s')) lookup Property.testHomeKey
      = some given → ∃ p, answer given = .ok p := by
    intro given hgiven
    rw [named?_after hh hsource hs' hs [home'] [home]] at hgiven
    exact ⟨_, (ha.test.at_home given hgiven).answer_eq⟩
  have hown : ∀ given, compilationHome? (h.machine (afterTest h lookup home' s')) q' lookup
      p'.version.major = some given → ∃ p, answer given = .ok p := by
    intro given hgiven
    have hat := ha.compilation.at_home given
      (compilationHome?_of_laxer hh hsource hs hs' hq hmajor hgiven)
    exact ⟨_, hat.answer_eq⟩
  obtain ⟨test, htest⟩ := Placed.exists h htest (h.after [home'] s') current
  obtain ⟨compilation, hown⟩ := Placed.exists h hown (afterTest h lookup home' s') current
  exact ⟨.byRole current test compilation, ⟨⟨hanswer, rfl⟩, htest, hown⟩, rfl⟩

/-- The installation that compiles now is new enough if the one that compiled before was. -/
theorem Assigned.compilationMajor_le (ha : Assigned h answer q home lookup s st)
    (ha' : Assigned h answer q' home' lookup s' st')
    (hmajor : (st .current).probed.version.major ≤ (st' .current).probed.version.major)
    (hle : q.compilationMajor ≤ (st .compilation).probed.version.major) :
    q'.compilationMajor ≤ (st' .compilation).probed.version.major := by
  cases hhome : compilationHome? (h.machine (afterTest h lookup home' s')) q' lookup
      (st' .current).probed.version.major with
  | none =>
    rw [ha'.compilation.eq_current hhome]
    rcases compilationHome?_eq_none_iff.mp hhome with hge | hnamed
    · exact hge
    · -- no home is named, so the current installation compiled before
      rw [named?_afterTest hh hsource hs' hs] at hnamed
      rw [ha.compilation.eq_current (compilationHome?_eq_none_iff.mpr (.inr hnamed))] at hle
      omega
  | some given =>
    -- both times it is the installation at this home
    have hat := ha.compilation.at_home given
      (compilationHome?_of_laxer hh hsource hs hs' hq hmajor hhome)
    have hsame := hat.answer_eq.symm.trans (ha'.compilation.at_home given hhome).answer_eq
    rw [← Except.ok.inj hsame]
    omega

end

/-! ## The flag of the remote cache -/

theorem Kept.withRemoteCache {x : σ × Resolved} (hx : Kept answer P r x) (flag : Bool) :
    Kept answer P { r with remoteCache := flag } (x.1, { x.2 with remoteCache := flag }) where
  faithful :=
    { bare_eq := congrArg (fun r : Resolved => { r with remoteCache := flag }) hx.faithful.bare_eq
      label_eq := hx.faithful.label_eq }
  state := hx.state

/-- The flag has no part in the resolution. -/
theorem resolveBy_withRemoteCache (hres : resolveBy h q cache home lookup s = (.ok r, t))
    (flag : Bool) :
    resolveBy h q flag home lookup s = (.ok { r with remoteCache := flag }, t) := by
  obtain ⟨calls, hc⟩ := Course.of_resolveBy hres
  cases hc with
  | done hcall htest hk => exact (Course.done hcall htest hk).resolveBy_eq

/-- Whatever was asked before, and with any flag, a check depends on how the installations stand. -/
theorem answers_check_withRemoteCache (hprobe : h.AnswersWithin P answer)
    (htells : ∀ role, Tells answer (r.installation role) (st role)) (flag : Bool) (policy : Policy) :
    Answers (Kept answer P { r with remoteCache := flag }) (check h policy)
      (.ok (violationsOf r.requirements flag (st .current) (st .compilation) policy)) := by
  -- the installations are those of the set with the flag as it was
  have hflagged : ∀ role, Tells answer
      (({ r with remoteCache := flag } : Resolved).installation role) (st role) := htells
  exact Kept.answers_check hprobe (hflagged .current) (hflagged .compilation) policy

theorem Kept.check_eq (hprobe : h.AnswersWithin P answer) {x : σ × Resolved}
    (hx : Kept answer P r x) (htells : ∀ role, Tells answer (r.installation role) (st role))
    (flag : Bool) (policy : Policy) :
    (check h policy (x.1, { x.2 with remoteCache := flag })).1
      = .ok (violationsOf r.requirements flag (st .current) (st .compilation) policy) :=
  (answers_check_withRemoteCache hprobe htells flag policy _ (hx.withRemoteCache flag)).1

/-- So does a validation. -/
theorem Kept.validate_eq (hprobe : h.AnswersWithin P answer) {x : σ × Resolved}
    (hx : Kept answer P r x) (htells : ∀ role, Tells answer (r.installation role) (st role))
    (flag : Bool) (requests : List Request) (policy : Policy) :
    (validate h policy (Request.run h requests (x.1, { x.2 with remoteCache := flag })).2).1
      = judged (violationsOf r.requirements flag (st .current) (st .compilation) policy) := by
  have hrun := Request.kept_run hprobe (hx.withRemoteCache flag) requests
  exact (answers_validate (answers_check_withRemoteCache hprobe htells flag policy) _ hrun).1

theorem violationsOf_compilation_suffix (q : Requirements) (current compilation : Standing) :
    violationsOf q false current compilation .compilation
      <:+ violationsOf q true current compilation .compilation :=
  List.suffix_append _ _

/-! ## Laxer requirements pass -/

/-- A build that passes the policy for all builds, or the one for compilation, passes it with laxer
requirements and a newer current installation too; the resolution does not fail then. And with the remote
cache disabled the policy for compilation has the last violations of those with the cache enabled. -/
theorem checks_monotone {h : Host σ} {P : σ → Prop} {answer : Path → Except Failure Probed}
    {lookup : Property.Lookup} (hh : h.Settled P answer)
    (hsource : ∀ u v, P u → P v → lookup (h.machine u) = lookup (h.machine v)) :
    (∀ q q' home home' s s' t u r p policy, P s → P s' →
      policy = .allBuilds ∨ policy = .compilation →
      resolveBy h q false home lookup s = (.ok r, t) → (check h policy (t, r)).1 = .ok [] →
      q'.buildMajor ≤ q.buildMajor → q'.compilationMajor ≤ q.compilationMajor →
      h.probe home' s' = (.ok p, u) → r.current.version.compare p.version ≠ .gt →
      ∃ r' t', resolveBy h q' false home' lookup s' = (.ok r', t') ∧
        (check h policy (t', r')).1 = .ok []) ∧
    (∀ q cache home s t r requests, P s → resolveBy h q cache home lookup s = (.ok r, t) →
      ∃ off on, ∃ x : σ × Resolved, (Request.run h requests (t, r)).2 = x ∧
        (check h .compilation (x.1, { x.2 with remoteCache := false })).1 = .ok off ∧
        (check h .compilation (x.1, { x.2 with remoteCache := true })).1 = .ok on ∧
        off <:+ on) := by
  constructor
  · intro q q' home home' s s' t u r p policy hs hs' hpolicy hres hpasses hbuild hcompilation hcall
      hversion
    obtain ⟨st, ha, hq, hcache, hkept, htells, -⟩ := exists_assigned hh hs hres
    have hcheck := hkept.check_eq hh.within htells r.remoteCache policy
    have hsatisfied := violationsOf_eq_nil_iff.mp (Except.ok.inj (hcheck.symm.trans hpasses))
    rw [hq, hcache] at hsatisfied
    have hmajor : (st .current).probed.version.major ≤ p.version.major := by
      rw [← (htells .current).version_eq]
      exact Version.major_le_of_compare_ne_gt hversion
    obtain ⟨hanswer, -⟩ := hh.within.of_probe hs' hcall
    -- besides the current home, the second run looks at no home that the first one did not look at
    obtain ⟨st', ha', rfl⟩ :=
      ha.exists_laxer hh hsource hs hs' hcompilation hanswer.symm hmajor
    obtain ⟨r', t', hres', hq', hcache', hkept', htells', -⟩ := ha'.resolveBy_eq hh hs' false
    refine ⟨r', t', hres', ?_⟩
    refine (hkept'.check_eq hh.within htells' r'.remoteCache policy).trans (congrArg Except.ok ?_)
    rw [hq', hcache', violationsOf_eq_nil_iff]
    rcases hpolicy with rfl | rfl
    · have hle : q.buildMajor ≤ (st .current).probed.version.major := hsatisfied
      show q'.buildMajor ≤ (st' .current).probed.version.major
      omega
    · exact ⟨nofun, ha.compilationMajor_le hh hsource hs hs' hcompilation ha' hmajor hsatisfied.2⟩
  · intro q cache home s t r requests hs hres
    obtain ⟨st, -, -, -, hkept, htells, -⟩ := exists_assigned hh hs hres
    have hx := Request.kept_run hh.within hkept requests
    exact ⟨_, _, _, rfl, hx.check_eq hh.within htells false _, hx.check_eq hh.within htells true _,
      violationsOf_compilation_suffix _ _ _⟩

/-- First Java 11 compiles next to a current Java 8, and then the current Java 17 does itself. -/
theorem checks_monotone_java17 :
    let m : Machine :=
      { files := .empty, workingDirectory := [], environment := [], accountHome := none }
    let answer : Path → Except Failure Probed := fun home =>
      match [("/jdk8", 8), ("/jdk11", 11), ("/jdk17", 17)].lookup home.text with
      | some major => .ok { version := .ofMajor major, vendor := "OpenJDK", isJdk := true }
      | none => .error (.probe home .notHome)
    let h := Host.counting m answer
    let lookup : Property.Lookup := fun _ key =>
      if key = Property.compilationHomeKey then some "/jdk11" else none
    ∃ r r' t', resolveBy h { compilationMajor := 11 } false ⟨"/jdk8"⟩ lookup 0 = (.ok r, 2) ∧
      (r.installation .compilation).version.major = 11 ∧
      resolveBy h { compilationMajor := 10 } false ⟨"/jdk17"⟩ lookup 5 = (.ok r', t') ∧
      (check h .compilation (t', r')).1 = .ok [] ∧ r'.usesCurrent .compilation = true ∧
      ∃ off on x, (Request.run h [.label .test] (2, r)).2 = x ∧
        (check h .compilation (x.1, { x.2 with remoteCache := false })).1 = .ok off ∧
        (check h .compilation (x.1, { x.2 with remoteCache := true })).1 = .ok on ∧
        off <:+ on := by
  intro m answer h lookup
  have hh : h.Settled (fun _ => True) answer :=
    Host.counting_settled_of_lookup m [("/jdk8", 8), ("/jdk11", 11), ("/jdk17", 17)]
      (by decide +kernel) fun home p hanswer => by
        simp only [answer] at hanswer
        split at hanswer
        · exact ⟨_, ‹_›⟩
        · cases hanswer
  have hsource : ∀ u v, True → True → lookup (h.machine u) = lookup (h.machine v) :=
    fun _ _ _ _ => rfl
  obtain ⟨hmonotone, hsuffix⟩ := checks_monotone hh hsource
  obtain ⟨r, hres, hmajor, hpasses, hversion⟩ : ∃ r,
      resolveBy h { compilationMajor := 11 } false ⟨"/jdk8"⟩ lookup 0 = (.ok r, 2) ∧
      (r.installation .compilation).version.major = 11 ∧
      (check h .compilation (2, r)).1 = .ok [] ∧
      r.current.version.compare (.ofMajor 17) ≠ .gt := ⟨_, rfl, rfl, rfl, by decide⟩
  obtain ⟨r', t', hres', hpasses'⟩ := hmonotone _ { compilationMajor := 10 } _ ⟨"/jdk17"⟩ 0 5 2 6 r _
    .compilation trivial trivial (.inr rfl) hres hpasses (by decide) (by decide) rfl hversion
  have huses : r'.usesCurrent .compilation = true := by
    have hown : resolveBy h { compilationMajor := 10 } false ⟨"/jdk17"⟩ lookup 5 = (.ok _, 6) := rfl
    rw [hown] at hres'
    cases hres'
    rfl
  exact ⟨r, r', t', hres, hmajor, hres', hpasses', huses,
    hsuffix _ _ _ _ _ _ [.label .test] trivial hres⟩

/-! ## The rule for production -/

/-- A build that passes the policy for production runs on the major version that the required label names,
and compiles with the same installation. If the least versions are no higher than that, it passes every
policy, with the remote cache enabled or not, and whatever was asked before. -/
theorem passes_all_of_production {h : Host σ} {P : σ → Prop}
    {answer : Path → Except Failure Probed} (hh : h.Settled P answer) {q : Requirements}
    {vendor : String} {n : Nat} (hlabel : q.vendorLabel = vendor ++ " " ++ n.repr)
    (hbuild : q.buildMajor ≤ n) (hcompilation : q.compilationMajor ≤ n) {cache : Bool} {home : Path}
    {lookup : Property.Lookup} {s t : σ} {r : Resolved} (hs : P s)
    (hres : resolveBy h q cache home lookup s = (.ok r, t)) {requests : List Request}
    (hpasses : (validate h .production (Request.run h requests (t, r)).2).1 = .ok ()) :
    r.current.version.major = n ∧ r.usesCurrent .compilation = true ∧
    ∀ flag, resolveBy h q flag home lookup s = (.ok { r with remoteCache := flag }, t) ∧
      ∀ requests policy, (validate h policy
        (Request.run h requests (t, { r with remoteCache := flag })).2).1 = .ok () := by
  obtain ⟨st, ha, hq, -, hkept, htells, huses⟩ := exists_assigned hh hs hres
  subst hq
  have hsame : (st .current).probed.label = r.requirements.vendorLabel := by
    have hjudged :=
      (hkept.validate_eq hh.within htells r.remoteCache requests .production).symm.trans hpasses
    exact violationsOf_eq_nil_iff.mp (judged_eq_ok_iff.mp hjudged)
  have hmajor : (st .current).probed.version.major = n :=
    (labelText_eq_iff.mp (hsame.trans hlabel)).2
  -- the current installation is new enough, so it compiles itself
  have hnone : compilationHome? (h.machine (afterTest h lookup home s)) r.requirements lookup
      (st .current).probed.version.major = none :=
    compilationHome?_eq_none_iff.mpr (.inl (by omega))
  rw [hnone] at huses
  have hcompiles := ha.compilation.eq_current hnone
  refine ⟨?_, huses, fun flag => ⟨resolveBy_withRemoteCache hres flag, fun requests policy => ?_⟩⟩
  · rw [← hmajor, ← (htells .current).version_eq]
    rfl
  · rw [hkept.validate_eq hh.within htells flag, judged_eq_ok_iff, violationsOf_eq_nil_iff, hcompiles]
    cases policy with
    | allBuilds =>
      show r.requirements.buildMajor ≤ (st .current).probed.version.major
      omega
    | compilation => exact ⟨fun _ => hsame, by omega⟩
    | remoteCache => exact hsame
    | production => exact hsame

/-- A vendor that ends in a number, and a home for compilation that is not looked at. -/
theorem passes_all_of_production_java11 :
    let m : Machine :=
      { files := .empty, workingDirectory := [], environment := [], accountHome := none }
    let p : Probed := { version := .ofMajor 11, vendor := "Zulu 8", isJdk := true }
    let h := Host.counting m fun _ => .ok p
    let q : Requirements := { vendorLabel := "Zulu 8 11" }
    ∃ r, resolveBy h q false ⟨"/jdk"⟩ (fun _ _ => some "/other") 0 = (.ok r, 2) ∧
      r.current.version.major = 11 ∧ r.usesCurrent .compilation = true ∧
      ∀ requests policy, (validate h policy
        (Request.run h requests (2, { r with remoteCache := true })).2).1 = .ok () := by
  intro m p h q
  have hh : h.Settled (fun _ => True) fun _ => .ok p :=
    ⟨(Host.counting_answersBy m _).within, fun _ _ _ _ hanswer => hanswer⟩
  obtain ⟨r, hres⟩ : ∃ r,
      resolveBy h q false ⟨"/jdk"⟩ (fun _ _ => some "/other") 0 = (.ok r, 2) := ⟨_, rfl⟩
  have hlabel : q.vendorLabel = "Zulu 8" ++ " " ++ (11 : Nat).repr := by decide +kernel
  have hpasses : (validate h .production (Request.run h [.report .json] (2, r)).2).1 = .ok () := by
    obtain ⟨st, ha, hq, -, hkept, htells, -⟩ := exists_assigned hh trivial hres
    refine (hkept.validate_eq hh.within htells r.remoteCache _ _).trans (judged_eq_ok_iff.mpr ?_)
    rw [hq, violationsOf_eq_nil_iff]
    show (st .current).probed.label = "Zulu 8 11"
    rw [← Except.ok.inj ha.current_at.answer_eq]
    decide +kernel
  obtain ⟨hmajor, huses, hall⟩ := passes_all_of_production hh hlabel (by decide) (by decide) trivial
    hres hpasses
  exact ⟨r, hres, hmajor, huses, (hall true).2⟩

end Resolved

end BuildJdk
