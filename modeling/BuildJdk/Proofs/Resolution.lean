import BuildJdk.Proofs.Calls
import BuildJdk.Proofs.Sharing

/-!
# The course of a resolution

A resolution asks the probe about the current home first. Then comes the turn of the tests, then that of
compilation: a role whose property names a home asks the probe about that home, and a role without one asks
nothing. Compilation has no turn if the current installation is new enough. The first failure ends it all.

`Course` spells this out for a probe that may answer differently each time. Main statement: every
resolution follows its course, with these calls of the probe and no others.
-/

namespace BuildJdk.Resolved

variable {σ : Type} {h : Host σ}

/-- The home that a property names on a machine. -/
def named? (m : Machine) (lookup : Property.Lookup) (key : String) : Option Path :=
  (lookup m key).map Path.mk

/-- The turn of a role that may have an installation of its own: the calls of the probe, all of them
answered, and the installation. -/
inductive Turn (h : Host σ) : Option Path → σ → List Call → Option Installation → σ → Prop
  | skipped (s : σ) : Turn h none s [] none s
  | taken {home : Path} {s t : σ} {p : Probed} : h.probe home s = (.ok p, t) →
      Turn h (some home) s [⟨home, .ok p⟩] (some (.new (h.machine t) false home p.version)) t

/-- The home that compilation asks about, next to a current installation of the given major version. -/
def compilationHome? (m : Machine) (q : Requirements) (lookup : Property.Lookup) (major : Nat) :
    Option Path :=
  if q.compilationMajor ≤ major then none else named? m lookup Property.compilationHomeKey

/-- How a resolution goes from a state: the calls of the probe, what comes of it, and the state after. -/
inductive Course (h : Host σ) (q : Requirements) (cache : Bool) (home : Path)
    (lookup : Property.Lookup) (s : σ) : List Call → Except Failure Resolved → σ → Prop
  | currentFails {e : Failure} {t : σ} :
      h.probe home s = (.error e, t) →
      Course h q cache home lookup s [⟨home, .error e⟩] (.error e) t
  | testFails {p : Probed} {s₁ t : σ} {test : Path} {e : Failure} :
      h.probe home s = (.ok p, s₁) →
      named? (h.machine s₁) lookup Property.testHomeKey = some test →
      h.probe test s₁ = (.error e, t) →
      Course h q cache home lookup s [⟨home, .ok p⟩, ⟨test, .error e⟩] (.error e) t
  | compilationFails {p : Probed} {s₁ s₂ t : σ} {calls : List Call} {ownTest : Option Installation}
      {compilation : Path} {e : Failure} :
      h.probe home s = (.ok p, s₁) →
      Turn h (named? (h.machine s₁) lookup Property.testHomeKey) s₁ calls ownTest s₂ →
      compilationHome? (h.machine s₂) q lookup p.version.major = some compilation →
      h.probe compilation s₂ = (.error e, t) →
      Course h q cache home lookup s (⟨home, .ok p⟩ :: calls ++ [⟨compilation, .error e⟩])
        (.error e) t
  | done {p : Probed} {s₁ s₂ t : σ} {testCalls compilationCalls : List Call}
      {ownTest ownCompilation : Option Installation} :
      h.probe home s = (.ok p, s₁) →
      Turn h (named? (h.machine s₁) lookup Property.testHomeKey) s₁ testCalls ownTest s₂ →
      Turn h (compilationHome? (h.machine s₂) q lookup p.version.major) s₂ compilationCalls
        ownCompilation t →
      Course h q cache home lookup s (⟨home, .ok p⟩ :: testCalls ++ compilationCalls)
        (.ok {
          current := .new (h.machine s₁) true home p.version
          ownTest, ownCompilation, requirements := q, remoteCache := cache }) t

/-! ## The parts of a resolution -/

theorem detect_ok {home : Path} {s t : σ} {p : Probed} (hcall : h.probe home s = (.ok p, t))
    (current : Bool) :
    Installation.detect h current home s
      = (.ok (.new (h.machine t) current home p.version), t) := by
  unfold Installation.detect Host.version Host.look
  simp only [Action.run_bind, Action.run_get, Action.run_pure, hcall]

theorem detect_error {home : Path} {s t : σ} {e : Failure} (hcall : h.probe home s = (.error e, t))
    (current : Bool) : Installation.detect h current home s = (.error e, t) := by
  unfold Installation.detect Host.version
  simp only [Action.run_bind, hcall]

/-- The installation of a role's own, at the home that the role asks about. -/
def detectOwn (h : Host σ) : Option Path → Action σ (Option Installation)
  | none => pure none
  | some home => return some (← Installation.detect h false home)

theorem detectOwn_of_turn {home? : Option Path} {s t : σ} {calls : List Call}
    {own : Option Installation} (ht : Turn h home? s calls own t) :
    detectOwn h home? s = (.ok own, t) := by
  cases ht with
  | skipped => rfl
  | @taken home _ _ _ hcall =>
    show (Installation.detect h false home >>= fun i => pure (some i)) s = _
    rw [Action.run_bind_ok (detect_ok hcall false)]
    rfl

theorem detectOwn_error {home : Path} {s t : σ} {e : Failure}
    (hcall : h.probe home s = (.error e, t)) : detectOwn h (some home) s = (.error e, t) :=
  Action.run_bind_error (detect_error hcall false) _

/-- A property is looked up on the machine as it is. -/
theorem override?_run (lookup : Property.Lookup) (key : String) (s : σ) :
    override? h lookup key s = detectOwn h (named? (h.machine s) lookup key) s := by
  unfold override? named?
  rw [Action.run_bind_ok (show h.look s = (.ok (h.machine s), s) from rfl)]
  cases lookup (h.machine s) key <;> rfl

/-- The property for compilation is not looked up if the current installation is new enough. -/
theorem compilationHome?_of_isAtLeast {q : Requirements} {v : Version}
    (hv : v.isAtLeast q.compilationMajor = true) (m : Machine) (lookup : Property.Lookup) :
    compilationHome? m q lookup v.major = none :=
  if_pos (of_decide_eq_true hv)

theorem compilationHome?_of_not_isAtLeast {q : Requirements} {v : Version}
    (hv : ¬ v.isAtLeast q.compilationMajor = true) (m : Machine) (lookup : Property.Lookup) :
    compilationHome? m q lookup v.major = named? m lookup Property.compilationHomeKey :=
  if_neg fun hle => hv (decide_eq_true hle)

/-- Compilation asks about a home just if the current installation is too old and the property names one. -/
theorem compilationHome?_eq_some_iff {m : Machine} {q : Requirements} {lookup : Property.Lookup}
    {major : Nat} {given : Path} :
    compilationHome? m q lookup major = some given ↔
      major < q.compilationMajor ∧ named? m lookup Property.compilationHomeKey = some given := by
  unfold compilationHome?
  by_cases hle : q.compilationMajor ≤ major
  · rw [if_pos hle]
    exact iff_of_false nofun (by omega)
  · rw [if_neg hle]
    exact (and_iff_right (by omega)).symm

/-- Compilation asks about no home if the current installation is new enough or no home is named. -/
theorem compilationHome?_eq_none_iff {m : Machine} {q : Requirements} {lookup : Property.Lookup}
    {major : Nat} :
    compilationHome? m q lookup major = none ↔
      q.compilationMajor ≤ major ∨ named? m lookup Property.compilationHomeKey = none := by
  unfold compilationHome?
  by_cases hle : q.compilationMajor ≤ major
  · rw [if_pos hle]
    exact iff_of_true rfl (.inl hle)
  · rw [if_neg hle]
    exact (or_iff_right hle).symm

/-- A resolution, part by part. -/
theorem resolveBy_run_ok {q : Requirements} {cache : Bool} {home : Path} {lookup : Property.Lookup}
    {s s₁ : σ} {p : Probed} (hcall : h.probe home s = (.ok p, s₁)) :
    resolveBy h q cache home lookup s =
      match detectOwn h (named? (h.machine s₁) lookup Property.testHomeKey) s₁ with
      | (.error e, t) => (.error e, t)
      | (.ok ownTest, s₂) =>
        match detectOwn h (compilationHome? (h.machine s₂) q lookup p.version.major) s₂ with
        | (.error e, t) => (.error e, t)
        | (.ok ownCompilation, t) => (.ok {
            current := .new (h.machine s₁) true home p.version
            ownTest, ownCompilation, requirements := q, remoteCache := cache }, t) := by
  unfold resolveBy
  rw [Action.run_bind_ok (detect_ok hcall true), Action.run_bind, override?_run]
  rcases detectOwn h (named? (h.machine s₁) lookup Property.testHomeKey) s₁ with ⟨e | ownTest, s₂⟩
  · rfl
  · have hversion : (Installation.new (h.machine s₁) true home p.version).version = p.version := rfl
    simp only [hversion]
    -- the version decides whether the property for compilation is looked up at all
    by_cases hv : p.version.isAtLeast q.compilationMajor = true
    · rw [if_pos hv, compilationHome?_of_isAtLeast hv]
      rfl
    · rw [if_neg hv, compilationHome?_of_not_isAtLeast hv, Action.run_bind, override?_run]
      rcases detectOwn h (named? (h.machine s₂) lookup Property.compilationHomeKey) s₂
        with ⟨e | ownCompilation, t⟩ <;> rfl

/-! ## Every resolution follows its course -/

/-- The resolution goes as its course tells. -/
theorem Course.resolveBy_eq {q : Requirements} {cache : Bool} {home : Path} {lookup : Property.Lookup}
    {s t : σ} {calls : List Call} {result : Except Failure Resolved}
    (hc : Course h q cache home lookup s calls result t) :
    resolveBy h q cache home lookup s = (result, t) := by
  cases hc with
  | currentFails hcall => exact Action.run_bind_error (detect_error hcall true) _
  | testFails hcall hn htest =>
    rw [resolveBy_run_ok hcall, hn, detectOwn_error htest]
  | compilationFails hcall ht hn hk =>
    rw [resolveBy_run_ok hcall, detectOwn_of_turn ht]
    dsimp only
    rw [hn, detectOwn_error hk]
  | done hcall ht hk =>
    rw [resolveBy_run_ok hcall, detectOwn_of_turn ht]
    dsimp only
    rw [detectOwn_of_turn hk]

/-- A turn is answered, or it fails at the home that it asks about. -/
theorem turn_or_fails (h : Host σ) (home? : Option Path) (s : σ) :
    (∃ calls own t, Turn h home? s calls own t) ∨
      ∃ home e t, home? = some home ∧ h.probe home s = (.error e, t) := by
  cases home? with
  | none => exact Or.inl ⟨[], none, s, .skipped s⟩
  | some home =>
    rcases hcall : h.probe home s with ⟨e | p, t⟩
    · exact Or.inr ⟨home, e, t, rfl, hcall⟩
    · exact Or.inl ⟨_, _, t, .taken hcall⟩

/-- Every resolution has a course. -/
theorem exists_course (h : Host σ) (q : Requirements) (cache : Bool) (home : Path)
    (lookup : Property.Lookup) (s : σ) :
    ∃ calls result t, Course h q cache home lookup s calls result t := by
  rcases hcall : h.probe home s with ⟨e | p, s₁⟩
  · exact ⟨_, _, s₁, .currentFails hcall⟩
  · rcases turn_or_fails h (named? (h.machine s₁) lookup Property.testHomeKey) s₁ with
      ⟨calls, ownTest, s₂, ht⟩ | ⟨test, e, t, hn, htest⟩
    · rcases turn_or_fails h (compilationHome? (h.machine s₂) q lookup p.version.major) s₂ with
        ⟨calls', ownCompilation, t, hk⟩ | ⟨compilation, e, t, hn, hk⟩
      · exact ⟨_, _, t, .done hcall ht hk⟩
      · exact ⟨_, _, t, .compilationFails hcall ht hn hk⟩
    · exact ⟨_, _, t, .testFails hcall hn htest⟩

/-! ## The log of a resolution -/

theorem Turn.logged {home? : Option Path} {s t : σ} {calls : List Call} {own : Option Installation}
    (ht : Turn h home? s calls own t) (log : List Path) :
    Turn h.logged home? (s, log) calls own (t, log ++ calls.map (·.home)) := by
  cases ht with
  | skipped =>
    rw [List.map_nil, List.append_nil]
    exact .skipped (s, log)
  | @taken home _ _ p hcall =>
    have hturn := Turn.taken (Host.logged_probe_eq hcall log)
    rw [Host.logged_machine] at hturn
    exact hturn

/-- The homes in calls that are made one part after the other. -/
theorem log_append (log : List Path) (c : Call) (cs ds : List Call) :
    log ++ (c :: cs ++ ds).map (·.home)
      = log ++ [c.home] ++ cs.map (·.home) ++ ds.map (·.home) := by
  simp

theorem Course.logged {q : Requirements} {cache : Bool} {home : Path} {lookup : Property.Lookup}
    {s t : σ} {calls : List Call} {result : Except Failure Resolved}
    (hc : Course h q cache home lookup s calls result t) (log : List Path) :
    Course h.logged q cache home lookup (s, log) calls result
      (t, log ++ calls.map (·.home)) := by
  cases hc with
  | currentFails hcall => exact .currentFails (Host.logged_probe_eq hcall log)
  | @testFails p _ _ test e hcall hn htest =>
    have hlog := log_append log ⟨home, .ok p⟩ [⟨test, .error e⟩] []
    rw [List.append_nil, List.map_nil, List.append_nil] at hlog
    rw [hlog]
    refine .testFails (Host.logged_probe_eq hcall log) ?_ (Host.logged_probe_eq htest _)
    exact hn
  | compilationFails hcall ht hn hk =>
    rw [log_append]
    refine .compilationFails (Host.logged_probe_eq hcall log) (ht.logged _) ?_
      (Host.logged_probe_eq hk _)
    exact hn
  | @done p s₁ _ _ testCalls _ ownTest ownCompilation hcall ht hk =>
    rw [log_append]
    -- the installations are made on the machine, and the log is no part of it
    show Course h.logged q cache home lookup (s, log) _
      (.ok {
        current := .new (h.logged.machine (s₁, log ++ [home])) true home p.version
        ownTest, ownCompilation, requirements := q, remoteCache := cache }) _
    exact .done (Host.logged_probe_eq hcall log) (ht.logged _) (hk.logged _)

/-! ## Resolved installations -/

theorem Course.of_resolveBy {q : Requirements} {cache : Bool} {home : Path}
    {lookup : Property.Lookup} {s t : σ} {result : Except Failure Resolved}
    (hrun : resolveBy h q cache home lookup s = (result, t)) :
    ∃ calls, Course h q cache home lookup s calls result t := by
  obtain ⟨calls, result', t', hc⟩ := exists_course h q cache home lookup s
  obtain ⟨rfl, rfl⟩ := Prod.mk.inj (hrun.symm.trans hc.resolveBy_eq)
  exact ⟨calls, hc⟩

theorem Turn.own_new {home? : Option Path} {s t : σ} {calls : List Call} {i : Installation}
    (ht : Turn h home? s calls (some i) t) :
    ∃ u given v, i = .new (h.machine u) false given v := by
  cases ht
  exact ⟨_, _, _, rfl⟩

/-- Only the version of a resolved installation is known yet, and it has the flag of the current one just
if its role uses that. -/
theorem Course.installation_new {q : Requirements} {cache : Bool} {home : Path}
    {lookup : Property.Lookup} {s t : σ} {calls : List Call} {r : Resolved}
    (hc : Course h q cache home lookup s calls (.ok r) t) (role : Role) :
    ∃ u given v, r.installation role = .new (h.machine u) (r.usesCurrent role) given v := by
  cases hc with
  | @done p s₁ _ _ _ _ ownTest ownCompilation _ ht hk =>
    have hcurrent : ∃ u given v, Installation.new (h.machine s₁) true home p.version
        = .new (h.machine u) true given v := ⟨s₁, home, p.version, rfl⟩
    cases role with
    | current => exact hcurrent
    | test =>
      cases ownTest with
      | none => exact hcurrent
      | some i => exact ht.own_new
    | compilation =>
      cases ownCompilation with
      | none => exact hcurrent
      | some i => exact hk.own_new

/-! ## Which roles share the current installation -/

theorem Course.current_eq_usesCurrent {q : Requirements} {cache : Bool} {home : Path}
    {lookup : Property.Lookup} {s t : σ} {calls : List Call} {r : Resolved}
    (hc : Course h q cache home lookup s calls (.ok r) t) (role : Role) :
    (r.installation role).current = r.usesCurrent role := by
  obtain ⟨u, given, v, hnew⟩ := hc.installation_new role
  rw [hnew]
  rfl

/-- A change to the installation of a role is one to the current installation just if the role uses that. -/
theorem current_withInstallation (r : Resolved) (role : Role) (i : Installation) :
    (r.withInstallation role i).current = if r.usesCurrent role then i else r.current := by
  rcases r with ⟨c, _ | t, _ | k, q, m⟩ <;> cases role <;> rfl

/-- Without a turn of compilation its property does not matter. -/
theorem resolveBy_eq_of_isAtLeast {q : Requirements} {home : Path} {lookup lookup' : Property.Lookup}
    {s s₁ : σ} {p : Probed} (hcall : h.probe home s = (.ok p, s₁))
    (hv : q.compilationMajor ≤ p.version.major)
    (htest : ∀ m, lookup' m Property.testHomeKey = lookup m Property.testHomeKey)
    (cache : Bool) : resolveBy h q cache home lookup' s = resolveBy h q cache home lookup s := by
  have hnamed : ∀ m, named? m lookup' Property.testHomeKey
      = named? m lookup Property.testHomeKey := by
    intro m
    unfold named?
    rw [htest]
  have hnone : ∀ m (l : Property.Lookup), compilationHome? m q l p.version.major = none :=
    fun _ _ => if_pos hv
  rw [resolveBy_run_ok hcall, resolveBy_run_ok hcall, hnamed]
  simp only [hnone]

/-! ## Resolutions -/

/-- Every resolution follows its course, and makes the calls of it and no others. The roles with the flag
of the current installation are those that use it; they see every change of it, and no other role does.
If the current installation is new enough to compile, the property for compilation does not matter. -/
theorem resolveBy_follows_course (h : Host σ) (q : Requirements) (cache : Bool) (home : Path)
    (lookup : Property.Lookup) (s : σ) (log : List Path) :
    ∃ calls result t,
      Course h q cache home lookup s calls result t ∧
      resolveBy h q cache home lookup s = (result, t) ∧
      resolveBy h.logged q cache home lookup (s, log)
        = (result, (t, log ++ calls.map (·.home))) ∧
      (∀ r, result = .ok r → ∀ role,
        (r.installation role).current = r.usesCurrent role ∧
        (r.usesCurrent role = true → r.installation role = r.current) ∧
        ∀ i, (r.withInstallation role i).current
          = if r.usesCurrent role then i else r.current) ∧
      (∀ p s₁ lookup', h.probe home s = (.ok p, s₁) → q.compilationMajor ≤ p.version.major →
        (∀ m, lookup' m Property.testHomeKey = lookup m Property.testHomeKey) →
        resolveBy h.logged q cache home lookup' (s, log)
          = resolveBy h.logged q cache home lookup (s, log)) := by
  obtain ⟨calls, result, t, hc⟩ := exists_course h q cache home lookup s
  refine ⟨calls, result, t, hc, hc.resolveBy_eq, (hc.logged log).resolveBy_eq, ?_, ?_⟩
  · rintro r rfl role
    exact ⟨hc.current_eq_usesCurrent role, installation_of_usesCurrent,
      current_withInstallation r role⟩
  · intro p s₁ lookup' hcall hv htest
    exact resolveBy_eq_of_isAtLeast (Host.logged_probe_eq hcall log) hv htest cache

end BuildJdk.Resolved
