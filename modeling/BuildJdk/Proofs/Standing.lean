import BuildJdk.Proofs.Steady

/-!
# How the installations of a build stand

To a settled probe a role's installation *stands* at a home, with what the probe tells of it there. What a
check says depends on no more than that: `violationsOf` tells which rules are violated.

The labels are asked for at the absolute homes, so none of them fails any more once the set is resolved. Main
statements: a set can be resolved just if each role has a standing, and then its checks never fail.
-/

namespace BuildJdk

variable {σ : Type}

/-- An installation as the probe tells of it. -/
structure Standing where
  home : Path
  probed : Probed

/-- How the roles stand, one by one. -/
def Standing.byRole (current test compilation : Standing) : Role → Standing
  | .current => current
  | .test => test
  | .compilation => compilation

/-- The installation at a home that is probed in this state. -/
structure Standing.At (h : Host σ) (answer : Path → Except Failure Probed) (s : σ) (given : Path)
    (i : Standing) : Prop where
  answer_eq : answer given = .ok i.probed
  home_eq : i.home = (h.machine (h.after [given] s)).absolute given

namespace Handler

/-! ## Which rules are violated -/

/-- The violation by an installation that is too old. -/
def tooOld (major : Nat) (policy : Policy) (message : String → Path → String) (i : Standing) :
    Option Violation :=
  if i.probed.version.major < major then
    some { policy, message := message i.probed.label i.home }
  else none

/-- The violation by an installation of another label. -/
def mislabelled (required : String) (policy : Policy) (message : String → Path → String)
    (i : Standing) : Option Violation :=
  if i.probed.label = required then none
  else some { policy, message := message i.probed.label i.home }

/-- The violated rules of a policy. -/
def violationsOf (q : Requirements) (cache : Bool) (current compilation : Standing) :
    Policy → List Violation
  | .allBuilds => (tooOld q.buildMajor .allBuilds (Rule.buildMessage q) current).toList
  | .compilation =>
    (if cache then mislabelled q.vendorLabel .remoteCache (Rule.remoteCacheMessage q) current
      else none).toList ++
    (tooOld q.compilationMajor .compilation (Rule.compilationMessage q) compilation).toList
  | .remoteCache =>
    (mislabelled q.vendorLabel .remoteCache (Rule.remoteCacheMessage q) current).toList
  | .production =>
    (mislabelled q.vendorLabel .production (Rule.productionMessage q) current).toList

end Handler

open BuildJdk.Action (Answers)
open Handler (tooOld mislabelled violationsOf)

variable {h : Host σ} {P : σ → Prop} {answer : Path → Except Failure Probed}

namespace Resolved

/-! ## Checks -/

/-- An installation that the probe tells the same of now. -/
structure Tells (answer : Path → Except Failure Probed) (i : Installation) (st : Standing) : Prop where
  home_eq : i.home = st.home
  version_eq : i.version = st.probed.version
  answer_eq : answer st.home = .ok st.probed

/-- In the states of `Q` the role has an installation that stands so, and its label can be told. -/
structure Stands (h : Host σ) (Q : σ × Resolved → Prop) (role : Role) (st : Standing) : Prop where
  home_eq : ∀ x, Q x → (x.2.installation role).home = st.home
  version_eq : ∀ x, Q x → (x.2.installation role).version = st.probed.version
  answers_label : Answers Q (ask role (Installation.label h)) (.ok st.probed.label)

/-- While nothing but the memory changes, an installation stands as the probe tells. -/
theorem Tells.stands {Q : σ × Resolved → Prop} {r₀ : Resolved} {role : Role} {st : Standing}
    (ht : Tells answer (r₀.installation role) st) (hP : ∀ x, Q x → x.2.bare = r₀.bare)
    (hlabel : Answers Q (ask role (Installation.label h))
      ((answer (r₀.installation role).home).map (·.label))) : Stands h Q role st where
  home_eq x hx := by rw [home_eq_of_bare_eq (hP x hx), ht.home_eq]
  version_eq x hx := by rw [version_eq_of_bare_eq (hP x hx), ht.version_eq]
  answers_label := by
    rw [ht.home_eq, ht.answer_eq] at hlabel
    exact hlabel

section

variable {Q : σ × Resolved → Prop} {role : Role} {st : Standing} (hs : Stands h Q role st)

include hs

theorem answers_atLeast (major : Nat) (policy : Policy) (message : String → Path → String) :
    Answers Q (ask role (Rule.atLeast h major policy message))
      (.ok (tooOld major policy message st)) := by
  unfold Rule.atLeast tooOld
  rw [ask_get_bind]
  refine .get fun x hx => ?_
  dsimp only
  rw [hs.version_eq x hx, hs.home_eq x hx]
  by_cases hlt : st.probed.version.major < major
  · have hv : ¬ st.probed.version.isAtLeast major = true := by
      simpa [Version.isAtLeast] using hlt
    -- only the message needs the label
    rw [if_neg hv, if_pos hlt, ask_bind]
    refine hs.answers_label.bind_ok ?_
    rw [ask_pure]
    exact .pure _
  · have hv : st.probed.version.isAtLeast major = true := by
      simpa [Version.isAtLeast] using hlt
    rw [if_pos hv, if_neg hlt, ask_pure]
    exact .pure none

theorem answers_labelled (required : String) (policy : Policy) (message : String → Path → String) :
    Answers Q (ask role (Rule.labelled h required policy message))
      (.ok (mislabelled required policy message st)) := by
  unfold Rule.labelled mislabelled
  rw [ask_bind]
  refine hs.answers_label.bind_ok ?_
  by_cases hlabel : st.probed.label = required
  · rw [if_pos hlabel, if_pos hlabel, ask_pure]
    exact .pure none
  · rw [if_neg hlabel, if_neg hlabel, ask_get_bind]
    refine .get fun x hx => ?_
    dsimp only
    rw [hs.home_eq x hx, ask_pure]
    exact .pure _

end

section

variable {Q : σ × Resolved → Prop} {q : Requirements} {cache : Bool}
  (hq : ∀ x, Q x → x.2.requirements = q)

include hq

theorem answers_askRule {role : Role} {a : Except Failure (Option Violation)}
    {rule : Requirements → Installation.Question σ (Option Violation)}
    (hrule : Answers Q (ask role (rule q)) a) : Answers Q (askRule role rule) a := by
  refine .get fun x hx => ?_
  rw [hq x hx]
  exact hrule

/-- A check tells the violated rules, and it does not fail. -/
theorem answers_check (hcache : ∀ x, Q x → x.2.remoteCache = cache) {current compilation : Standing}
    (hcurrent : Stands h Q .current current) (hcompilation : Stands h Q .compilation compilation)
    (policy : Policy) :
    Answers Q (check h policy) (.ok (violationsOf q cache current compilation policy)) := by
  have hremote : Answers Q (askRule .current (Rule.remoteCache h))
      (.ok (mislabelled q.vendorLabel .remoteCache (Rule.remoteCacheMessage q) current)) :=
    answers_askRule hq (answers_labelled hcurrent _ _ _)
  cases policy with
  | allBuilds => exact (answers_askRule hq (answers_atLeast hcurrent _ _ _)).bind_ok (.pure _)
  | remoteCache => exact hremote.bind_ok (.pure _)
  | production =>
    exact (answers_askRule hq (answers_labelled hcurrent _ _ _)).bind_ok (.pure _)
  | compilation =>
    rw [check_compilation_eq]
    refine .get fun x hx => ?_
    rw [hcache x hx]
    unfold violationsOf
    have hfirst : Answers Q
        (if cache then askRule .current (Rule.remoteCache h) else pure none)
        (.ok (if cache then mislabelled q.vendorLabel .remoteCache
          (Rule.remoteCacheMessage q) current else none)) := by
      cases cache with
      | true => exact hremote
      | false => exact .pure none
    refine hfirst.bind_ok ?_
    exact (answers_askRule hq (answers_atLeast hcompilation _ _ _)).bind_ok (.pure _)

end

/-- What is remembered makes no difference to a check. -/
theorem Kept.answers_check (hprobe : h.AnswersWithin P answer) {r₀ : Resolved}
    {current compilation : Standing} (hcurrent : Tells answer (r₀.installation .current) current)
    (hcompilation : Tells answer (r₀.installation .compilation) compilation) (policy : Policy) :
    Answers (Kept answer P r₀) (check h policy)
      (.ok (violationsOf r₀.requirements r₀.remoteCache current compilation policy)) := by
  have hstands : ∀ {role st}, Tells answer (r₀.installation role) st →
      Stands h (Kept answer P r₀) role st :=
    fun ht => ht.stands (fun x hx => hx.faithful.bare_eq) (answers_label hprobe r₀ _)
  exact Resolved.answers_check (fun x hx => requirements_eq_of_bare_eq hx.faithful.bare_eq)
    (fun x hx => remoteCache_eq_of_bare_eq hx.faithful.bare_eq) (hstands hcurrent)
    (hstands hcompilation) policy

/-- A validation fails just with the messages of the violated rules. -/
def judged (vs : List Violation) : Except Failure Unit :=
  if vs = [] then .ok () else .error (.violated (vs.map (·.message)))

theorem answers_validate {Q : σ × Resolved → Prop} {policy : Policy} {vs : List Violation}
    (hcheck : Answers Q (check h policy) (.ok vs)) : Answers Q (validate h policy) (judged vs) := by
  refine hcheck.bind_ok ?_
  unfold judged
  by_cases hvs : vs = []
  · rw [if_pos hvs, if_pos hvs]
    exact .pure ()
  · rw [if_neg hvs, if_neg hvs]
    exact .throw _

/-! ## Roles -/

/-- A role stands where its home is looked for in this state. Without a home of its own it stands as the
current installation. -/
structure Placed (h : Host σ) (answer : Path → Except Failure Probed) (home? : Option Path) (s : σ)
    (current st : Standing) : Prop where
  eq_current : home? = none → st = current
  at_home : ∀ given, home? = some given → st.At h answer s given

/-- The state in which the home for compilation is looked up. -/
def afterTest (h : Host σ) (lookup : Property.Lookup) (home : Path) (s : σ) : σ :=
  h.after (named? (h.machine (h.after [home] s)) lookup Property.testHomeKey).toList
    (h.after [home] s)

/-- How the roles stand in a resolution that does not fail. -/
structure Assigned (h : Host σ) (answer : Path → Except Failure Probed) (q : Requirements)
    (home : Path) (lookup : Property.Lookup) (s : σ) (st : Role → Standing) : Prop where
  current_at : (st .current).At h answer s home
  test : Placed h answer (named? (h.machine (h.after [home] s)) lookup Property.testHomeKey)
    (h.after [home] s) (st .current) (st .test)
  compilation : Placed h answer
    (compilationHome? (h.machine (afterTest h lookup home s)) q lookup
      (st .current).probed.version.major)
    (afterTest h lookup home s) (st .current) (st .compilation)

theorem Placed.exists (h : Host σ) {home? : Option Path}
    (hok : ∀ home, home? = some home → ∃ p, answer home = .ok p) (s : σ) (current : Standing) :
    ∃ st, Placed h answer home? s current st := by
  cases home? with
  | none => exact ⟨current, fun _ => rfl, nofun⟩
  | some home =>
    obtain ⟨p, hp⟩ := hok home rfl
    refine ⟨⟨(h.machine (h.after [home] s)).absolute home, p⟩, nofun, ?_⟩
    rintro _ ⟨⟩
    exact ⟨hp, rfl⟩

section

variable {home? : Option Path} {s t : σ} {current st : Standing}

/-- An absolute home is as good for the probe as the given one. -/
theorem tells_new (hh : h.Settled P answer) (hs : P s) {given : Path} (hi : st.At h answer s given)
    (flag : Bool) :
    Tells answer (.new (h.machine (h.after [given] s)) flag given st.probed.version) st where
  home_eq := hi.home_eq.symm
  version_eq := rfl
  answer_eq := by
    rw [hi.home_eq]
    exact hh.absolute _ given _ (hh.within.after hs _) hi.answer_eq

/-- The installation of a role's own, where its home was looked for in this state. -/
def ownAt (h : Host σ) (home? : Option Path) (s : σ) (st : Standing) : Option Installation :=
  home?.map fun given => .new (h.machine (h.after [given] s)) false given st.probed.version

theorem Placed.exists_turn (hprobe : h.AnswersWithin P answer) (hs : P s)
    (hp : Placed h answer home? s current st) :
    ∃ calls, Turn h home? s calls (ownAt h home? s st) (h.after home?.toList s) := by
  cases home? with
  | none => exact ⟨[], .skipped s⟩
  | some home =>
    have hcall := hprobe.probe_eq hs home
    rw [(hp.at_home home rfl).answer_eq] at hcall
    exact ⟨_, .taken hcall⟩

theorem Placed.tells (hh : h.Settled P answer) (hs : P s) (hp : Placed h answer home? s current st)
    {i : Installation} (hi : Tells answer i current) :
    Tells answer ((ownAt h home? s st).getD i) st := by
  cases home? with
  | none =>
    rw [hp.eq_current rfl]
    exact hi
  | some given => exact tells_new hh hs (hp.at_home given rfl) false

theorem Turn.placed (hprobe : h.AnswersWithin P answer) (hs : P s) {calls : List Call}
    {own : Option Installation} (ht : Turn h home? s calls own t) (current : Standing) :
    t = h.after home?.toList s ∧ ∃ st, Placed h answer home? s current st := by
  cases ht with
  | skipped =>
    refine ⟨rfl, Placed.exists h ?_ s current⟩
    rintro _ ⟨⟩
  | @taken home _ _ p hcall =>
    obtain ⟨hanswer, rfl⟩ := hprobe.of_probe hs hcall
    refine ⟨rfl, Placed.exists h ?_ s current⟩
    rintro _ ⟨⟩
    exact ⟨p, hanswer.symm⟩

end

section

variable {q : Requirements} {cache : Bool} {home : Path} {lookup : Property.Lookup} {s t : σ}
  {r : Resolved} {st : Role → Standing}

/-- With a standing for each role the resolution does not fail, and the installations stand so. -/
theorem Assigned.resolveBy_eq (hh : h.Settled P answer) (hs : P s)
    (ha : Assigned h answer q home lookup s st) (cache : Bool) :
    ∃ r t, resolveBy h q cache home lookup s = (.ok r, t) ∧ r.requirements = q ∧
      r.remoteCache = cache ∧ Kept answer P r (t, r) ∧
      (∀ role, Tells answer (r.installation role) (st role)) ∧
      r.usesCurrent .compilation = (compilationHome? (h.machine (afterTest h lookup home s)) q lookup
        (st .current).probed.version.major).isNone := by
  have hs₁ : P (h.after [home] s) := hh.within.after hs _
  have hs₂ : P (afterTest h lookup home s) := hh.within.after hs₁ _
  have hcall := hh.within.probe_eq hs home
  rw [ha.current_at.answer_eq] at hcall
  obtain ⟨testCalls, htest⟩ := ha.test.exists_turn hh.within hs₁
  obtain ⟨calls, hk⟩ := ha.compilation.exists_turn hh.within hs₂
  have hc : Course h q cache home lookup s _ (.ok _) _ := .done hcall htest hk
  have hcurrent := tells_new hh hs ha.current_at true
  refine ⟨_, _, hc.resolveBy_eq, rfl, rfl, ⟨(hc.steady _).1, hh.within.after hs₂ _⟩, ?_, ?_⟩
  · intro role
    cases role with
    | current => exact hcurrent
    | test => exact ha.test.tells hh hs₁ hcurrent
    | compilation => exact ha.compilation.tells hh hs₂ hcurrent
  · exact Option.isNone_map

/-- A resolution that does not fail has a standing for each role. -/
theorem Assigned.of_resolveBy (hprobe : h.AnswersWithin P answer) (hs : P s)
    (hres : resolveBy h q cache home lookup s = (.ok r, t)) :
    ∃ st, Assigned h answer q home lookup s st := by
  obtain ⟨calls, hc⟩ := Course.of_resolveBy hres
  cases hc with
  | @done p s₁ s₂ _ _ _ _ _ hcall htest hk =>
    obtain ⟨hanswer, rfl⟩ := hprobe.of_probe hs hcall
    have hs₁ := hprobe.after hs [home]
    let current : Standing := ⟨(h.machine (h.after [home] s)).absolute home, p⟩
    obtain ⟨rfl, test, htest⟩ := htest.placed hprobe hs₁ current
    obtain ⟨-, compilation, hk⟩ := hk.placed hprobe (hprobe.after hs₁ _) current
    exact ⟨.byRole current test compilation, ⟨hanswer.symm, rfl⟩, htest, hk⟩

/-- The installations of a resolved set stand as they were assigned. -/
theorem exists_assigned (hh : h.Settled P answer) (hs : P s)
    (hres : resolveBy h q cache home lookup s = (.ok r, t)) :
    ∃ st, Assigned h answer q home lookup s st ∧ r.requirements = q ∧ r.remoteCache = cache ∧
      Kept answer P r (t, r) ∧ (∀ role, Tells answer (r.installation role) (st role)) ∧
      r.usesCurrent .compilation = (compilationHome? (h.machine (afterTest h lookup home s)) q lookup
        (st .current).probed.version.major).isNone := by
  obtain ⟨st, ha⟩ := Assigned.of_resolveBy hh.within hs hres
  obtain ⟨r', t', hres', hfacts⟩ := ha.resolveBy_eq hh hs cache
  rw [hres] at hres'
  cases hres'
  exact ⟨st, ha, hfacts⟩

end

end Resolved

end BuildJdk
