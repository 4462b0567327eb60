import BuildJdk.Proofs.Validation
import Mathlib.Data.List.Forall2

/-!
# What commands print

A command prints once, after all that can fail has been done. So a command that fails has printed nothing, but
for a validation with violated rules, which is a verdict and no accident.

`Ending` tells how a report on the installations ends, for a probe that may answer differently each time: the
failures in the order in which they come, and the report that is printed if there is none. A scan goes on when
a probe fails, and has an entry for each home.

Main statement: every report ends so, every scan has an entry for each home from one call of the probe, and no
failed command has printed anything.
-/

namespace BuildJdk

variable {σ : Type}

namespace Report

/-! ## What a report shows -/

/-- What the report shows of an installation once its label is told. -/
structure Shown where
  installation : Installation
  label : String
  toolsJar : Option Path

namespace Shown

/-- What is shown of an installation after the probe has told of it: its label, and the library that is in
the files by then. -/
def of (h : Host σ) (t : σ) (i : Installation) (p : Probed) : Shown :=
  { installation := i, label := p.label, toolsJar := Home.toolsJar? (h.machine t) i.home }

/-- What the report says about the installation in a role. -/
def summary (x : Shown) (role : Role) : Summary :=
  { role, home := x.installation.home, version := x.installation.version, label := x.label
    current := x.installation.current, toolsJar := x.toolsJar }

/-- The installation with what is shown of it remembered. -/
def remembered (x : Shown) : Installation := (x.installation.withLabel x.label).withToolsJar x.toolsJar

end Shown

/-- A role that may have an installation of its own gets its label. A role without one shows the current
installation again, and nobody is asked. -/
inductive Labels (h : Host σ) (current : Shown) : Option Installation → σ → Shown → σ → Prop
  | shared (s : σ) : Labels h current none s current s
  | told {i : Installation} {s t : σ} {p : Probed} : h.probe i.home s = (.ok p, t) →
      Labels h current (some i) s (.of h t i p) t

end Report

namespace Handler

open Resolved (Course)
open Report (Shown Labels Summary)

/-- How the installations of a build are resolved from a state: the current home is located first, and then
the resolution follows its course. -/
inductive Resolves (H : Handler σ) (s : σ) : Except Failure Resolved → σ → Prop
  | notLocated {e : Failure} : H.located s = .error e → Resolves H s (.error e) s
  | located {home : Path} {calls : List Call} {result : Except Failure Resolved} {t : σ} :
      H.located s = .ok home →
      Course H.host H.config.requirements H.config.remoteCache home H.source.lookup s calls result t →
      Resolves H s result t

/-- The outcome of a command that fails before it prints. -/
def silent (e : Failure) : Outcome := { output := "", result := .error e }

/-- How a report on the installations ends. Each failure is one that comes after those above it, and nothing
is printed before all three labels are told. -/
inductive Ending (H : Handler σ) (format : Format) (s : σ) : Outcome → σ → Prop
  | unresolved {e : Failure} {t : σ} : Resolves H s (.error e) t → Ending H format s (silent e) t
  | currentFails {r : Resolved} {s₁ t : σ} {e : Failure} :
      Resolves H s (.ok r) s₁ → H.host.probe r.current.home s₁ = (.error e, t) →
      Ending H format s (silent e) t
  | testFails {r : Resolved} {i : Installation} {s₁ s₂ t : σ} {p : Probed} {e : Failure} :
      Resolves H s (.ok r) s₁ → H.host.probe r.current.home s₁ = (.ok p, s₂) →
      r.own? .test = some i → H.host.probe i.home s₂ = (.error e, t) →
      Ending H format s (silent e) t
  | compilationFails {r : Resolved} {i : Installation} {s₁ s₂ s₃ t : σ} {p : Probed} {test : Shown}
      {e : Failure} :
      Resolves H s (.ok r) s₁ → H.host.probe r.current.home s₁ = (.ok p, s₂) →
      Labels H.host (.of H.host s₂ r.current p) (r.own? .test) s₂ test s₃ →
      r.own? .compilation = some i → H.host.probe i.home s₃ = (.error e, t) →
      Ending H format s (silent e) t
  | printed {r : Resolved} {s₁ s₂ s₃ t : σ} {p : Probed} {current test compilation : Shown} :
      Resolves H s (.ok r) s₁ → H.host.probe r.current.home s₁ = (.ok p, s₂) →
      current = .of H.host s₂ r.current p →
      Labels H.host current (r.own? .test) s₂ test s₃ →
      Labels H.host current (r.own? .compilation) s₃ compilation t →
      Ending H format s
        { output := Report.resolvedText r.remoteCache
            [current.summary .current, test.summary .test, compilation.summary .compilation] format
          result := .ok () } t

/-- The entry of a scan for a call of the probe: what it told, or else the words of its failure. -/
inductive Recorded : Call → Report.ScanEntry → Prop
  | probed (home : Path) (p : Probed) :
      Recorded ⟨home, .ok p⟩ { home, probed := some p, error := none }
  | failed (home : Path) (e : Failure) :
      Recorded ⟨home, .error e⟩ { home, probed := none, error := some e.message }

/-- The handler whose host keeps a list of the homes that its probe was asked about. -/
def logged (H : Handler σ) : Handler (σ × List Path) where
  host := H.host.logged
  config := H.config
  source := H.source
  javaHome := H.javaHome

end Handler

/-! ## Labels that are asked for -/

namespace Installation

/-- Nothing is remembered of the installation. -/
structure IsFresh (i : Installation) : Prop where
  knownLabel_eq : i.knownLabel = none
  knownToolsJar_eq : i.knownToolsJar = none

end Installation

namespace Report

open Resolved

variable {h : Host σ} {s t : σ} {r : Resolved} {role : Role}

/-- A summary, part by part. -/
theorem summary_eq (role : Role) : Summary.of h role = ask role (Installation.label h) >>= fun label =>
    ask role (Installation.toolsJar h) >>= fun toolsJar => get >>= fun x => pure
      { role, home := (x.2.installation role).home, version := (x.2.installation role).version
        label, current := (x.2.installation role).current, toolsJar } := by
  unfold Summary.of
  rw [ask_bind]
  refine congrArg (ask role (Installation.label h) >>= ·) (funext fun label => ?_)
  rw [ask_bind]
  refine congrArg (ask role (Installation.toolsJar h) >>= ·) (funext fun toolsJar => ?_)
  rw [ask_get_bind]
  exact congrArg (get >>= ·) (funext fun x => ask_pure role _)

theorem summary_of_error {e : Failure} (hfresh : (r.installation role).IsFresh)
    (hcall : h.probe (r.installation role).home s = (.error e, t)) :
    Summary.of h role (s, r) = (.error e, (t, r)) := by
  rw [summary_eq]
  exact Action.run_bind_error (ask_label_unknown hfresh.knownLabel_eq hcall) _

/-- An installation that the probe tells of is shown as it is told, and that is remembered. -/
theorem summary_of_told {p : Probed} (hfresh : (r.installation role).IsFresh)
    (hcall : h.probe (r.installation role).home s = (.ok p, t)) :
    Summary.of h role (s, r) = (.ok ((Shown.of h t (r.installation role) p).summary role),
      (t, r.withInstallation role (Shown.of h t (r.installation role) p).remembered)) := by
  have hjar : jarAt h t ((r.learn role (.ok p)).installation role)
      = Home.toolsJar? (h.machine t) (r.installation role).home := by
    unfold jarAt learn
    rw [installation_withInstallation_self]
    -- learning the label leaves what is known of the library
    show (r.installation role).knownToolsJar.getD _ = _
    rw [hfresh.knownToolsJar_eq]
    rfl
  rw [summary_eq, Action.run_bind_ok (ask_label_unknown hfresh.knownLabel_eq hcall),
    Action.run_bind_ok (ask_toolsJar role t _), hjar, Action.run_bind_ok (Action.run_get _)]
  unfold learn
  simp only [installation_withInstallation_self, withInstallation_withInstallation]
  rfl

/-- What is remembered is shown again. -/
theorem summary_of_remembered {x : Shown} (hx : r.installation role = x.remembered) :
    Summary.of h role (s, r) = (.ok (x.summary role), (s, r)) := by
  have hlabel : (r.installation role).knownLabel = some x.label := by
    rw [hx]
    rfl
  have hsame : (x.remembered).withToolsJar (jarAt h s x.remembered) = x.remembered := rfl
  rw [summary_eq, Action.run_bind_ok (ask_label_known hlabel),
    Action.run_bind_ok (ask_toolsJar role s r), hx, hsame, ← hx, withInstallation_installation,
    Action.run_bind_ok (Action.run_get _), hx]
  rfl

/-- After the current installation is shown: a role with an installation of its own asks for its label, and the
current installation stays as it is remembered. -/
theorem summary_of_labels {current x : Shown} (hcurrent : r.current = current.remembered)
    (hfresh : ∀ i, r.own? role = some i → i.IsFresh) (hx : Labels h current (r.own? role) s x t) :
    ∃ r', Summary.of h role (s, r) = (.ok (x.summary role), (t, r')) ∧
      r'.current = current.remembered ∧ r'.remoteCache = r.remoteCache ∧
      ∀ other, other ≠ role → r'.own? other = r.own? other := by
  -- the cases need the installation as a variable
  generalize hown : r.own? role = own at hfresh hx
  cases hx with
  | shared =>
    have hinstallation : r.installation role = current.remembered := by
      rw [installation_of_usesCurrent (usesCurrent_of_own_none hown), hcurrent]
    exact ⟨r, summary_of_remembered hinstallation, hcurrent, rfl, fun _ _ => rfl⟩
  | @told i _ _ p hcall =>
    have hinstallation := installation_of_own hown
    have huses : r.usesCurrent role = false := by
      unfold usesCurrent
      rw [hown]
      rfl
    rw [← hinstallation] at hcall ⊢
    refine ⟨_, summary_of_told (hinstallation ▸ hfresh i rfl) hcall, ?_, ?_, ?_⟩
    · rw [current_withInstallation, huses, if_neg Bool.false_ne_true, hcurrent]
    · exact remoteCache_withInstallation r role _
    · exact fun other hne => own?_withInstallation_of_ne hne r _

/-- The three roles are asked one after the other. -/
theorem resolved_eq (format : Format) : resolved h format = Summary.of h .current >>= fun current =>
    Summary.of h .test >>= fun test => Summary.of h .compilation >>= fun compilation =>
      get >>= fun x =>
        pure (resolvedText x.2.remoteCache [current, test, compilation] format) := by
  unfold resolved roles
  simp only [List.mapM_cons, List.mapM_nil, bind_assoc, pure_bind]

end Report

namespace Handler

open CommandLine (Command PolicyChoice)
open Resolved (Course)
open Report (Shown Labels Summary)

variable {H : Handler σ} {s t : σ} {r : Resolved}

/-! ## Resolving -/

theorem Resolves.resolve_eq {result : Except Failure Resolved} (hr : Resolves H s result t) :
    H.resolve false s = (result, t) := by
  cases hr with
  | notLocated hl => exact resolve_of_not_located hl false
  | located hl hc =>
    rw [resolve_of_located hl, Bool.false_or]
    exact hc.resolveBy_eq

theorem exists_resolves (H : Handler σ) (s : σ) : ∃ result t, Resolves H s result t := by
  cases hl : H.located s with
  | error e => exact ⟨_, s, .notLocated hl⟩
  | ok home =>
    obtain ⟨calls, result, t, hc⟩ := Resolved.exists_course H.host H.config.requirements
      H.config.remoteCache home H.source.lookup s
    exact ⟨result, t, .located hl hc⟩

/-- Nothing is remembered of installations that were just resolved. -/
theorem Resolves.isFresh (hr : Resolves H s (.ok r) t) (role : Role) :
    (r.installation role).IsFresh := by
  cases hr with
  | located _ hc =>
    obtain ⟨u, given, v, hnew⟩ := hc.installation_new role
    rw [hnew]
    exact ⟨rfl, rfl⟩

/-! ## Reports -/

theorem printing_of_ok {action : Action σ String} {output : String} (h : action s = (.ok output, t)) :
    printing action s = ({ output, result := .ok () }, t) := by
  have hrun : action.run s = (.ok output, t) := h
  unfold printing
  exact Action.state_bind_of_eq hrun _

theorem printing_of_error {action : Action σ String} {e : Failure} (h : action s = (.error e, t)) :
    printing action s = (silent e, t) := by
  have hrun : action.run s = (.error e, t) := h
  unfold printing
  exact Action.state_bind_of_eq hrun _

theorem handle_resolve_of_unresolved {e : Failure} (hr : Resolves H s (.error e) t) (json : Bool) :
    H.handle (.resolve json) s = (silent e, t) :=
  printing_of_error (Action.run_bind_error hr.resolve_eq _)

theorem asking_eq {α : Type} {q : Resolved.Question σ α} {answer : Except Failure α}
    {y : σ × Resolved} (h : q (s, r) = (answer, y)) : r.asking q s = (answer, y.1) := by
  unfold Resolved.asking
  rw [h]

theorem handle_resolve_of_error {s₁ : σ} (hr : Resolves H s (.ok r) s₁) {json : Bool}
    {e : Failure} {r' : Resolved}
    (hasked : Report.resolved H.host (.ofFlag json) (s₁, r) = (.error e, (t, r'))) :
    H.handle (.resolve json) s = (silent e, t) := by
  refine printing_of_error ?_
  rw [Action.run_bind_ok hr.resolve_eq]
  exact asking_eq hasked

theorem handle_resolve_of_ok {s₁ : σ} (hr : Resolves H s (.ok r) s₁) {json : Bool}
    {output : String} {r' : Resolved}
    (hasked : Report.resolved H.host (.ofFlag json) (s₁, r) = (.ok output, (t, r'))) :
    H.handle (.resolve json) s = ({ output, result := .ok () }, t) := by
  refine printing_of_ok ?_
  rw [Action.run_bind_ok hr.resolve_eq]
  exact asking_eq hasked

/-- A role gets its label, or the probe fails at its installation. -/
theorem labels_or_fails (h : Host σ) (current : Shown) (own : Option Installation) (s : σ) :
    (∃ x t, Labels h current own s x t) ∨
      ∃ i e t, own = some i ∧ h.probe i.home s = (.error e, t) := by
  cases own with
  | none => exact Or.inl ⟨current, s, .shared s⟩
  | some i =>
    rcases hcall : h.probe i.home s with ⟨e | p, t⟩
    · exact Or.inr ⟨i, e, t, rfl, hcall⟩
    · exact Or.inl ⟨_, t, .told hcall⟩

theorem summary_of_own_error {h : Host σ} {role : Role} {i : Installation} {e : Failure}
    (hfresh : i.IsFresh) (hi : r.own? role = some i) (hcall : h.probe i.home s = (.error e, t)) :
    Summary.of h role (s, r) = (.error e, (t, r)) := by
  have hinstallation := Resolved.installation_of_own hi
  rw [← hinstallation] at hfresh hcall
  exact Report.summary_of_error hfresh hcall

section

variable {h : Host σ} {s₁ s₂ s₃ : σ} {p : Probed} (hfresh : ∀ role, (r.installation role).IsFresh)
  (hcall : h.probe r.current.home s₁ = (.ok p, s₂))

include hfresh hcall

/-- What is left to ask once the current installation is shown. -/
theorem resolved_after_current :
    ∃ r', r'.current = (Shown.of h s₂ r.current p).remembered ∧ r'.remoteCache = r.remoteCache ∧
      (∀ role, role ≠ .current → r'.own? role = r.own? role) ∧
      ∀ format, Report.resolved h format (s₁, r) = (Summary.of h .test >>= fun test =>
        Summary.of h .compilation >>= fun compilation => get >>= fun x =>
          pure (Report.resolvedText x.2.remoteCache
            [(Shown.of h s₂ r.current p).summary .current, test, compilation] format)) (s₂, r') := by
  have hcurrent : Summary.of h .current (s₁, r) = _ :=
    Report.summary_of_told (hfresh .current) hcall
  refine ⟨_, Resolved.installation_withInstallation_self r .current _,
    Resolved.remoteCache_withInstallation r .current _,
    fun role hne => Resolved.own?_withInstallation_of_ne hne r _, fun format => ?_⟩
  rw [Report.resolved_eq, Action.run_bind_ok hcurrent]
  rfl

/-- What is left to ask once the installation for tests is shown, too. -/
theorem resolved_after_test {test : Shown}
    (htest : Labels h (.of h s₂ r.current p) (r.own? .test) s₂ test s₃) :
    ∃ r', r'.current = (Shown.of h s₂ r.current p).remembered ∧ r'.remoteCache = r.remoteCache ∧
      r'.own? .compilation = r.own? .compilation ∧
      ∀ format, Report.resolved h format (s₁, r) = (Summary.of h .compilation >>= fun compilation =>
        get >>= fun x => pure (Report.resolvedText x.2.remoteCache
          [(Shown.of h s₂ r.current p).summary .current, test.summary .test, compilation]
            format)) (s₃, r') := by
  obtain ⟨r₁, hcurrent₁, hcache₁, hown₁, hrest⟩ := resolved_after_current hfresh hcall
  have htest₁ := hown₁ .test nofun
  obtain ⟨r₂, hrun, hcurrent₂, hcache₂, hown₂⟩ := Report.summary_of_labels hcurrent₁
    (fun i hi => Resolved.installation_of_own (htest₁ ▸ hi) ▸ hfresh .test) (by rwa [htest₁])
  refine ⟨r₂, hcurrent₂, hcache₂.trans hcache₁,
    (hown₂ .compilation nofun).trans (hown₁ .compilation nofun), fun format => ?_⟩
  rw [hrest, Action.run_bind_ok hrun]

end

/-- An ending is the outcome of the command. -/
theorem Ending.handle_eq {json : Bool} {o : Outcome} (he : Ending H (.ofFlag json) s o t) :
    H.handle (.resolve json) s = (o, t) := by
  -- the labels before the one that fails are asked for, and those after it are not
  cases he with
  | unresolved hr => exact handle_resolve_of_unresolved hr json
  | @currentFails r s₁ _ e hr hcall =>
    have hasked : Report.resolved H.host (.ofFlag json) (s₁, r) = (.error e, (t, r)) := by
      rw [Report.resolved_eq]
      exact Action.run_bind_error (Report.summary_of_error (hr.isFresh .current) hcall) _
    exact handle_resolve_of_error hr hasked
  | @testFails r i s₁ s₂ _ p e hr hcall hi hfails =>
    obtain ⟨r₁, -, -, hown₁, hrest⟩ := resolved_after_current hr.isFresh hcall
    have hfresh : i.IsFresh := Resolved.installation_of_own hi ▸ hr.isFresh .test
    have hasked : Report.resolved H.host (.ofFlag json) (s₁, r) = (.error e, (t, r₁)) := by
      rw [hrest]
      exact Action.run_bind_error
        (summary_of_own_error hfresh ((hown₁ .test nofun).trans hi) hfails) _
    exact handle_resolve_of_error hr hasked
  | @compilationFails r i s₁ s₂ s₃ _ p test e hr hcall htest hi hfails =>
    obtain ⟨r₂, -, -, hown₂, hrest⟩ := resolved_after_test hr.isFresh hcall htest
    have hfresh : i.IsFresh := Resolved.installation_of_own hi ▸ hr.isFresh .compilation
    have hasked : Report.resolved H.host (.ofFlag json) (s₁, r) = (.error e, (t, r₂)) := by
      rw [hrest]
      exact Action.run_bind_error (summary_of_own_error hfresh (hown₂.trans hi) hfails) _
    exact handle_resolve_of_error hr hasked
  | @printed r s₁ s₂ s₃ _ p current test compilation hr hcall hcurrent htest hcompilation =>
    subst hcurrent
    obtain ⟨r₂, hcurrent₂, hcache₂, hown₂, hrest⟩ := resolved_after_test hr.isFresh hcall htest
    obtain ⟨r₃, hrun, -, hcache₃, -⟩ := Report.summary_of_labels hcurrent₂
      (fun i hi => Resolved.installation_of_own (hown₂ ▸ hi) ▸ hr.isFresh .compilation)
      (by rwa [hown₂])
    have hasked : Report.resolved H.host (.ofFlag json) (s₁, r)
        = (.ok (Report.resolvedText r.remoteCache
            [(Shown.of H.host s₂ r.current p).summary .current, test.summary .test,
              compilation.summary .compilation] (.ofFlag json)), (t, r₃)) := by
      rw [hrest, Action.run_bind_ok hrun, Action.run_bind_ok (Action.run_get _), hcache₃, hcache₂]
      rfl
    exact handle_resolve_of_ok hr hasked

/-- Every report ends. -/
theorem exists_ending (H : Handler σ) (format : Format) (s : σ) :
    ∃ o t, Ending H format s o t := by
  obtain ⟨result, s₁, hr⟩ := exists_resolves H s
  cases result with
  | error e => exact ⟨_, s₁, .unresolved hr⟩
  | ok r =>
    rcases hcall : H.host.probe r.current.home s₁ with ⟨e | p, s₂⟩
    · exact ⟨_, s₂, .currentFails hr hcall⟩
    · rcases labels_or_fails H.host (.of H.host s₂ r.current p) (r.own? .test) s₂ with
        ⟨test, s₃, htest⟩ | ⟨i, e, t, hi, hfails⟩
      · rcases labels_or_fails H.host (.of H.host s₂ r.current p) (r.own? .compilation) s₃ with
          ⟨compilation, t, hcompilation⟩ | ⟨i, e, t, hi, hfails⟩
        · exact ⟨_, t, .printed hr hcall rfl htest hcompilation⟩
        · exact ⟨_, t, .compilationFails hr hcall htest hi hfails⟩
      · exact ⟨_, t, .testFails hr hcall hi hfails⟩

/-! ## Validations -/

theorem handle_validate_of_error {H : Handler σ} {choices : List PolicyChoice}
    {remoteCache : Bool} {e : Failure}
    (h : H.validate choices remoteCache s = (.error e, t)) (json : Bool) :
    H.handle (.validate choices remoteCache json) s
      = ({ output := "", result := .error e }, t) := by
  have hrun : (H.validate choices remoteCache).run s = (.error e, t) := h
  unfold handle
  exact Action.state_bind_of_eq hrun _

theorem handle_validate_of_ok {H : Handler σ} {choices : List PolicyChoice}
    {remoteCache : Bool} {verdicts : List Report.Verdict}
    (h : H.validate choices remoteCache s = (.ok verdicts, t)) (json : Bool) :
    H.handle (.validate choices remoteCache json) s = (concluded verdicts json, t) := by
  have hrun : (H.validate choices remoteCache).run s = (.ok verdicts, t) := h
  unfold handle
  exact Action.state_bind_of_eq hrun _

/-- The only failure of a validation with verdicts is that rules are violated. -/
theorem violated_of_concluded {verdicts : List Report.Verdict} {json : Bool} {e : Failure}
    (h : (concluded verdicts json).result = .error e) : ∃ messages, e = .violated messages := by
  unfold concluded at h
  split at h
  · cases h
  · cases h
    exact ⟨_, rfl⟩

/-! ## Scans -/

theorem scanHome_eq {c : Call} {entry : Report.ScanEntry} (hentry : Recorded c entry)
    (hcall : H.host.probe c.home s = (c.answer, t)) : H.scanHome c.home s = (entry, t) := by
  have hrun : (H.host.probe c.home).run s = (c.answer, t) := hcall
  unfold scanHome
  cases hentry <;> exact Action.state_bind_of_eq hrun _

/-- Each home is probed once, in the state that the calls before it have left. -/
theorem mapM_scanHome_eq {calls : List Call} (hc : H.host.Calls s calls t)
    {entries : List Report.ScanEntry} (he : List.Forall₂ Recorded calls entries) :
    (calls.map (·.home)).mapM H.scanHome s = (entries, t) := by
  induction hc generalizing entries with
  | nil =>
    cases he
    rfl
  | cons hcall _ ih =>
    cases he with
    | cons hentry hentries =>
      rw [List.map_cons, List.mapM_cons, Action.state_bind_of_eq (scanHome_eq hentry hcall),
        Action.state_bind_of_eq (ih hentries)]
      rfl

theorem scan_eq {roots : List Path} {calls : List Call} (hc : H.host.Calls s calls t)
    (hhomes : calls.map (·.home) = Scan.homes (H.host.machine s) roots)
    {entries : List Report.ScanEntry} (he : List.Forall₂ Recorded calls entries) :
    H.scan roots s = (entries, t) := by
  have hget : (get : StateM σ σ) s = (s, s) := rfl
  unfold scan
  rw [Action.state_bind_of_eq hget, ← hhomes]
  exact mapM_scanHome_eq hc he

theorem exists_calls (h : Host σ) (homes : List Path) (s : σ) :
    ∃ calls t, h.Calls s calls t ∧ calls.map (·.home) = homes := by
  induction homes generalizing s with
  | nil => exact ⟨[], s, .nil s, rfl⟩
  | cons home homes ih =>
    obtain ⟨calls, t, hc, rfl⟩ := ih (h.probe home s).2
    exact ⟨⟨home, (h.probe home s).1⟩ :: calls, t, .cons rfl hc, rfl⟩

theorem exists_recorded (calls : List Call) : ∃ entries, List.Forall₂ Recorded calls entries := by
  induction calls with
  | nil => exact ⟨[], .nil⟩
  | cons c calls ih =>
    obtain ⟨entries, he⟩ := ih
    obtain ⟨home, e | p⟩ := c
    · exact ⟨_, .cons (.failed home e) he⟩
    · exact ⟨_, .cons (.probed home p) he⟩

theorem handle_scan_eq {roots : List Path} {entries : List Report.ScanEntry}
    (h : H.scan (Scan.defaultRoots (H.host.machine s) ++ roots) s = (entries, t)) (json : Bool) :
    H.handle (.scan roots json) s
      = ({ output := Report.scan entries (.ofFlag json), result := .ok () }, t) := by
  have hget : (get : StateM σ σ) s = (s, s) := rfl
  unfold handle
  exact (Action.state_bind_of_eq hget _).trans (Action.state_bind_of_eq h _)

/-! ## All commands -/

theorem Ending.output_eq {format : Format} {o : Outcome} {e : Failure}
    (he : Ending H format s o t) (hfails : o.result = .error e) : o.output = "" := by
  cases he with
  | printed => cases hfails
  | _ => rfl

/-- A command has printed nothing when it fails, unless rules are violated. -/
theorem output_eq_of_fails {command : Command} {e : Failure}
    (hfails : (H.handle command s).1.result = .error e) (hother : ∀ messages, e ≠ .violated messages) :
    (H.handle command s).1.output = "" := by
  cases command with
  | resolve json =>
    obtain ⟨o, t, he⟩ := exists_ending H (.ofFlag json) s
    rw [he.handle_eq] at hfails ⊢
    exact he.output_eq hfails
  | validate policies remoteCache json =>
    rcases hrun : H.validate policies remoteCache s with ⟨e' | verdicts, t⟩
    · rw [handle_validate_of_error hrun]
    · rw [handle_validate_of_ok hrun] at hfails
      obtain ⟨messages, rfl⟩ := violated_of_concluded hfails
      exact absurd rfl (hother messages)
  | scan roots json =>
    rw [handle_scan_eq rfl] at hfails
    cases hfails

/-- A failed command has printed nothing, unless rules are violated. Every report on the installations ends
as it should, and every scan has an entry for each home, in order, from one call of the probe; it fails for
no answer of the probe. -/
theorem handle_prints_whole (H : Handler σ) (s : σ) :
    (∀ command e, (H.handle command s).1.result = .error e →
      (∀ messages, e ≠ .violated messages) → (H.handle command s).1.output = "") ∧
    (∀ json, ∃ o t, H.handle (.resolve json) s = (o, t) ∧ Ending H (.ofFlag json) s o t) ∧
    (∀ roots log, ∃ calls entries t, H.scan roots s = (entries, t) ∧
      H.host.Calls s calls t ∧ calls.map (·.home) = Scan.homes (H.host.machine s) roots ∧
      List.Forall₂ Recorded calls entries ∧
      H.logged.scan roots (s, log)
        = (entries, (t, log ++ Scan.homes (H.host.machine s) roots))) ∧
    (∀ roots json, ∃ entries t,
      H.scan (Scan.defaultRoots (H.host.machine s) ++ roots) s = (entries, t) ∧
      H.handle (.scan roots json) s
        = ({ output := Report.scan entries (.ofFlag json), result := .ok () }, t)) := by
  refine ⟨fun command e => output_eq_of_fails, fun json => ?_, fun roots log => ?_,
    fun roots json => ⟨_, _, rfl, handle_scan_eq rfl json⟩⟩
  · obtain ⟨o, t, he⟩ := exists_ending H (.ofFlag json) s
    exact ⟨o, t, he.handle_eq, he⟩
  · obtain ⟨calls, t, hc, hhomes⟩ := exists_calls H.host (Scan.homes (H.host.machine s) roots) s
    obtain ⟨entries, he⟩ := exists_recorded calls
    refine ⟨calls, entries, t, scan_eq hc hhomes he, hc, hhomes, he, ?_⟩
    rw [← hhomes]
    have hlogged : H.logged.host.Calls (s, log) calls (t, log ++ calls.map (·.home)) :=
      hc.logged log
    exact scan_eq hlogged hhomes he

end Handler

end BuildJdk
