import BuildJdk.Proofs.Places
import BuildJdk.Proofs.Question
import BuildJdk.Proofs.Resolution

/-!
# What is remembered of the labels

A question asks the probe only for labels that are not known yet, and what a probe tells is remembered
from then on; that it failed is not. `Enquired` spells this out for a probe that may answer differently
each time: which calls are made, for the label of which role, and what is learnt from each.

All roles of one owner learn of a label at once. Main statement: in every run of requests, an owner's
label is asked for until it is told for the first time, and then never again.
-/

namespace BuildJdk.Resolved

variable {σ α : Type} {h : Host σ}

/-- A call of the probe for the label of a role's installation. -/
structure Enquiry extends Call where
  role : Role

/-- What is remembered of an answer about the installation of a role. -/
def learn (r : Resolved) (role : Role) : Except Failure Probed → Resolved
  | .ok p => r.withInstallation role ((r.installation role).withLabel p.label)
  | .error _ => r

/-- How questions go on from a state: the enquiries, and the state after them. The files may be looked at
in between. -/
inductive Enquired (h : Host σ) : σ × Resolved → List Enquiry → σ × Resolved → Prop
  | done (x : σ × Resolved) : Enquired h x [] x
  | asks {s s' : σ} {r : Resolved} {role : Role} {answer : Except Failure Probed}
      {es : List Enquiry} {y : σ × Resolved} :
      (r.installation role).knownLabel = none →
      h.probe (r.installation role).home s = (answer, s') →
      Enquired h (s', r.learn role answer) es y →
      Enquired h (s, r) ({ home := (r.installation role).home, answer, role } :: es) y
  | looks {s : σ} {r : Resolved} (role : Role) (jar : Option Path) {es : List Enquiry}
      {y : σ × Resolved} :
      Enquired h (s, r.withInstallation role ((r.installation role).withToolsJar jar)) es y →
      Enquired h (s, r) es y

/-- Questions that are asked one after the other make their enquiries one after the other. -/
theorem Enquired.append {x y z : σ × Resolved} {es fs : List Enquiry} (he : Enquired h x es y)
    (hf : Enquired h y fs z) : Enquired h x (es ++ fs) z := by
  induction he with
  | done => exact hf
  | asks hunknown hcall _ ih => exact .asks hunknown hcall (ih hf)
  | looks role jar _ ih => exact .looks role jar (ih hf)

/-! ## What is learnt -/

/-- An answer changes nothing about the set but what is remembered. -/
theorem bare_learn (r : Resolved) (role : Role) (answer : Except Failure Probed) :
    (r.learn role answer).bare = r.bare := by
  cases answer with
  | ok p => exact bare_withInstallation (Installation.bare_withLabel _ _)
  | error e => rfl

/-- A label that is told is known in all roles of the owner. -/
theorem knownLabel_learn_ok {r : Resolved} {role other : Role} (howner : r.owner role = r.owner other)
    (p : Probed) : ((r.learn role (.ok p)).installation other).knownLabel = some p.label := by
  unfold learn
  rw [installation_withInstallation, if_pos howner]
  rfl

/-- Nothing is learnt about the installations of other owners. -/
theorem installation_learn_of_ne {r : Resolved} {role other : Role}
    (howner : r.owner role ≠ r.owner other) (answer : Except Failure Probed) :
    (r.learn role answer).installation other = r.installation other := by
  cases answer with
  | ok p =>
    unfold learn
    rw [installation_withInstallation, if_neg howner]
  | error e => rfl

/-! ## Requests for labels and libraries -/

/-- A known label is told from memory, and nothing changes. -/
theorem ask_label_known {s : σ} {r : Resolved} {role : Role} {label : String}
    (hknown : (r.installation role).knownLabel = some label) :
    ask role (Installation.label h) (s, r) = (.ok label, (s, r)) := by
  have hlabel : Installation.label h (s, r.installation role)
      = (.ok label, (s, r.installation role)) := by
    unfold Installation.label
    simp only [hknown]
  rw [ask_run, hlabel, withInstallation_installation]

/-- An unknown label is asked for at the home of the role, once, and what is told is learnt. -/
theorem ask_label_unknown {s s' : σ} {r : Resolved} {role : Role} {answer : Except Failure Probed}
    (hunknown : (r.installation role).knownLabel = none)
    (hcall : h.probe (r.installation role).home s = (answer, s')) :
    ask role (Installation.label h) (s, r)
      = (answer.map (·.label), (s', r.learn role answer)) := by
  rw [ask_run]
  unfold Installation.label
  simp only [hunknown, hcall]
  cases answer with
  | ok p => rfl
  | error e =>
    dsimp only
    rw [withInstallation_installation]
    rfl

/-- The library that is remembered of an installation, or else the one that is in the files now. -/
def jarAt (h : Host σ) (s : σ) (i : Installation) : Option Path :=
  i.knownToolsJar.getD (Home.toolsJar? (h.machine s) i.home)

/-- A library is looked for in the files as they are now, unless it was looked for before. -/
theorem ask_toolsJar (role : Role) (s : σ) (r : Resolved) :
    ask role (Installation.toolsJar h) (s, r) = (.ok (jarAt h s (r.installation role)),
      (s, r.withInstallation role
        ((r.installation role).withToolsJar (jarAt h s (r.installation role))))) := by
  rw [ask_run]
  generalize r.installation role = i
  rcases i with ⟨current, home, version, label, _ | jar⟩ <;> rfl

/-! ## Every question goes on so -/

/-- A request for a label makes one enquiry, or none. -/
theorem enquired_label (role : Role) (x : σ × Resolved) :
    ∃ es, Enquired h x es (ask role (Installation.label h) x).2 := by
  obtain ⟨s, r⟩ := x
  cases hknown : (r.installation role).knownLabel with
  | some label =>
    rw [ask_label_known hknown]
    exact ⟨[], .done _⟩
  | none =>
    rcases hcall : h.probe (r.installation role).home s with ⟨answer, s'⟩
    rw [ask_label_unknown hknown hcall]
    exact ⟨_, .asks hknown hcall (.done _)⟩

/-- Every plain question makes enquiries one after the other, whether it fails or not. -/
theorem Plain.enquired {q : Question σ α} (hq : Plain h q) (x : σ × Resolved) :
    ∃ es, Enquired h x es (q x).2 := by
  induction hq generalizing x with
  | done a => exact ⟨[], .done x⟩
  | fail e => exact ⟨[], .done x⟩
  | label role => exact enquired_label role x
  | toolsJar role =>
    rw [ask_toolsJar]
    exact ⟨[], .looks role _ (.done _)⟩
  | @andThen _ _ q k _ _ ihq ihk =>
    obtain ⟨es, hes⟩ := ihq x
    rcases hrun : q x with ⟨e | a, y⟩ <;> rw [hrun] at hes
    · -- what is learnt before a failure is kept
      rw [Action.run_bind_error hrun]
      exact ⟨es, hes⟩
    · rw [Action.run_bind_ok hrun]
      obtain ⟨fs, hfs⟩ := ihk a y
      exact ⟨es ++ fs, hes.append hfs⟩
  | look _ _ ih =>
    rw [Action.run_bind_ok (Action.run_get x)]
    exact ih x x
  | attempt _ ih => exact ih x

/-! ## The answers about one installation -/

/-- The answers to the enquiries about the installation of a role, whichever of its roles was asked. -/
def answersOn (r : Resolved) (role : Role) (es : List Enquiry) : List (Except Failure Probed) :=
  (es.filter fun e => r.owner e.role = r.owner role).map (·.answer)

theorem answersOn_cons_of_eq {r : Resolved} {role : Role} {e : Enquiry}
    (howner : r.owner e.role = r.owner role) (es : List Enquiry) :
    r.answersOn role (e :: es) = e.answer :: r.answersOn role es := by
  unfold answersOn
  rw [List.filter_cons_of_pos (by simpa using howner)]
  rfl

theorem answersOn_cons_of_ne {r : Resolved} {role : Role} {e : Enquiry}
    (howner : r.owner e.role ≠ r.owner role) (es : List Enquiry) :
    r.answersOn role (e :: es) = r.answersOn role es := by
  unfold answersOn
  rw [List.filter_cons_of_neg (by simpa using howner)]

/-- Which answers are about one installation does not depend on what is remembered. -/
theorem answersOn_of_bare_eq {r r' : Resolved} (hbare : r'.bare = r.bare) (role : Role)
    (es : List Enquiry) : r'.answersOn role es = r.answersOn role es := by
  unfold answersOn
  simp only [owner_eq_of_bare_eq hbare]

/-- How a label gets known from answers of the probe. A failure tells nothing, and a known label needs no
more answers. -/
inductive Learns : Option String → List (Except Failure Probed) → Option String → Prop
  | rest (label : Option String) : Learns label [] label
  | failed {e : Failure} {answers : List (Except Failure Probed)} {label : Option String} :
      Learns none answers label → Learns none (.error e :: answers) label
  | told {p : Probed} {answers : List (Except Failure Probed)} {label : Option String} :
      Learns (some p.label) answers label → Learns none (.ok p :: answers) label

/-- A label that is known is not asked for again. -/
theorem Learns.of_known {known : String} {answers : List (Except Failure Probed)}
    {label : Option String} (hl : Learns (some known) answers label) :
    answers = [] ∧ label = some known := by
  cases hl
  exact ⟨rfl, rfl⟩

/-- A label that is unknown is asked for until it is told: before that there are failures only, and after it
nothing. -/
theorem Learns.of_unknown {answers : List (Except Failure Probed)} {label : Option String}
    (hl : Learns none answers label) :
    (∃ errors : List Failure, answers = errors.map .error ∧ label = none) ∨
      ∃ (errors : List Failure) (p : Probed),
        answers = errors.map .error ++ [.ok p] ∧ label = some p.label := by
  generalize hstart : none = start at hl
  induction hl with
  | rest =>
    subst hstart
    exact Or.inl ⟨[], rfl, rfl⟩
  | @failed e _ _ _ ih =>
    rcases ih rfl with ⟨errors, rfl, hlabel⟩ | ⟨errors, p, rfl, hlabel⟩
    · exact Or.inl ⟨e :: errors, rfl, hlabel⟩
    · exact Or.inr ⟨e :: errors, p, rfl, hlabel⟩
  | @told p _ _ hrest =>
    -- the answer is the last one, as the label is known after it
    obtain ⟨rfl, rfl⟩ := hrest.of_known
    exact Or.inr ⟨[], p, rfl, rfl⟩

/-- Along any enquiries each role learns its label from the answers about its installation, and from no others.
-/
theorem Enquired.learns {x y : σ × Resolved} {es : List Enquiry} (he : Enquired h x es y)
    (role : Role) : Learns (x.2.installation role).knownLabel (x.2.answersOn role es)
      (y.2.installation role).knownLabel := by
  induction he with
  | done x => exact .rest _
  | @asks _ _ r asked answer es _ hunknown _ _ ih =>
    rw [answersOn_of_bare_eq (bare_learn r asked answer)] at ih
    by_cases howner : r.owner asked = r.owner role
    · -- the role shares the installation that is asked for, so its label is not known either
      rw [answersOn_cons_of_eq howner, ← installation_eq_of_owner_eq howner, hunknown]
      cases answer with
      | error e =>
        rw [show r.learn asked (.error e) = r from rfl, ← installation_eq_of_owner_eq howner,
          hunknown] at ih
        exact .failed ih
      | ok p =>
        rw [knownLabel_learn_ok howner] at ih
        exact .told ih
    · rw [answersOn_cons_of_ne howner]
      rw [installation_learn_of_ne howner] at ih
      exact ih
  | @looks _ r looked jar _ _ _ ih =>
    rw [answersOn_of_bare_eq (bare_withInstallation (Installation.bare_withToolsJar _ jar)),
      knownLabel_withToolsJar] at ih
    exact ih

/-! ## What a run makes of the installations -/

/-- How the installations and the probe are after enquiries about the labels. -/
structure Remembered (h : Host σ) (x : σ × Resolved) (es : List Enquiry) (y : σ × Resolved) :
    Prop where
  /-- The enquiries are all the calls of the probe. -/
  calls : h.Calls x.1 (es.map (·.toCall)) y.1
  home_eq : ∀ e ∈ es, e.home = (x.2.installation e.role).home
  /-- Nothing changes but what is remembered. -/
  bare_eq : y.2.bare = x.2.bare
  /-- A known label is not asked for, in no role of the installation. -/
  known : ∀ role label, (x.2.installation role).knownLabel = some label →
    x.2.answersOn role es = [] ∧ (y.2.installation role).knownLabel = some label
  /-- An unknown label is asked for until it is told. -/
  unknown : ∀ role, (x.2.installation role).knownLabel = none →
    (∃ errors : List Failure, x.2.answersOn role es = errors.map .error ∧
      (y.2.installation role).knownLabel = none) ∨
    ∃ (errors : List Failure) (p : Probed),
      x.2.answersOn role es = errors.map .error ++ [.ok p] ∧
      (y.2.installation role).knownLabel = some p.label

/-- The calls of the probe are those of the enquiries. -/
theorem Enquired.calls {x y : σ × Resolved} {es : List Enquiry} (he : Enquired h x es y) :
    h.Calls x.1 (es.map (·.toCall)) y.1 := by
  induction he with
  | done x => exact .nil x.1
  | asks _ hcall _ ih => exact .cons hcall ih
  | looks _ _ _ ih => exact ih

theorem Enquired.bare_eq {x y : σ × Resolved} {es : List Enquiry} (he : Enquired h x es y) :
    y.2.bare = x.2.bare := by
  induction he with
  | done => rfl
  | asks _ _ _ ih => exact ih.trans (bare_learn _ _ _)
  | looks _ _ _ ih => exact ih.trans (bare_withInstallation (Installation.bare_withToolsJar _ _))

/-- Each enquiry is made at the home that the role had from the start. -/
theorem Enquired.home_eq {x y : σ × Resolved} {es : List Enquiry} (he : Enquired h x es y) :
    ∀ e ∈ es, e.home = (x.2.installation e.role).home := by
  induction he with
  | done => simp
  | asks _ _ _ ih =>
    intro e hmem
    rcases List.mem_cons.mp hmem with rfl | hmem
    · rfl
    · rw [ih e hmem]
      exact home_eq_of_bare_eq (bare_learn _ _ _) e.role
  | looks _ _ _ ih =>
    intro e hmem
    rw [ih e hmem]
    exact home_eq_of_bare_eq (bare_withInstallation (Installation.bare_withToolsJar _ _)) e.role

theorem Enquired.remembered {x y : σ × Resolved} {es : List Enquiry} (he : Enquired h x es y) :
    Remembered h x es y where
  calls := he.calls
  home_eq := he.home_eq
  bare_eq := he.bare_eq
  known role label hknown := by
    have hl := he.learns role
    rw [hknown] at hl
    exact hl.of_known
  unknown role hunknown := by
    have hl := he.learns role
    rw [hunknown] at hl
    exact hl.of_unknown

end BuildJdk.Resolved

namespace BuildJdk.Request

variable {σ : Type}

/-- Every request makes enquiries; one for a description makes none. -/
theorem enquired_ask (h : Host σ) (request : Request) (x : σ × Resolved) :
    ∃ es, Resolved.Enquired h x es (request.ask h x).2 := by
  by_cases hr : ∃ role, request = .describe role
  · obtain ⟨role, rfl⟩ := hr
    exact ⟨[], .done x⟩
  · exact (plain_ask h fun role heq => hr ⟨role, heq⟩).enquired x

/-- A run makes the enquiries of its requests, in their order. -/
theorem enquired_run (h : Host σ) (requests : List Request) (x : σ × Resolved) :
    ∃ es, Resolved.Enquired h x es (run h requests x).2 := by
  induction requests generalizing x with
  | nil => exact ⟨[], .done x⟩
  | cons request rest ih =>
    obtain ⟨es, hes⟩ := enquired_ask h request x
    obtain ⟨fs, hfs⟩ := ih (request.ask h x).2
    exact ⟨es ++ fs, hes.append hfs⟩

/-! ## Single requests -/

theorem ask_label_of_known {h : Host σ} {s : σ} {r : Resolved} {role : Role} {label : String}
    (hknown : (r.installation role).knownLabel = some label) :
    ask h (.label role) (s, r) = (.ok (.text label), (s, r)) :=
  Action.run_bind_ok (Resolved.ask_label_known hknown) _

theorem ask_label_of_told {h : Host σ} {s t : σ} {r : Resolved} {role : Role} {p : Probed}
    (hunknown : (r.installation role).knownLabel = none)
    (hcall : h.probe (r.installation role).home s = (.ok p, t)) :
    ask h (.label role) (s, r) = (.ok (.text p.label), (t, r.learn role (.ok p))) :=
  Action.run_bind_ok (Resolved.ask_label_unknown hunknown hcall) _

/-- A failure is handed on as it is, and nothing is learnt from it. -/
theorem ask_label_of_failed {h : Host σ} {s t : σ} {r : Resolved} {role : Role} {e : Failure}
    (hunknown : (r.installation role).knownLabel = none)
    (hcall : h.probe (r.installation role).home s = (.error e, t)) :
    ask h (.label role) (s, r) = (.error e, (t, r)) :=
  Action.run_bind_error (Resolved.ask_label_unknown hunknown hcall) _

/-- A rule that the version decides asks for nothing. -/
theorem ask_atLeast_of_le {h : Host σ} {s : σ} {r : Resolved} {role : Role} {major : Nat}
    (hle : major ≤ (r.installation role).version.major) (policy : Policy)
    (message : String → Path → String) :
    Resolved.ask role (Rule.atLeast h major policy message) (s, r) = (.ok none, (s, r)) := by
  have hat : (r.installation role).version.isAtLeast major = true := decide_eq_true hle
  unfold Rule.atLeast
  rw [Resolved.ask_get_bind, Action.run_bind_ok (Action.run_get _)]
  dsimp only
  rw [if_pos hat, Resolved.ask_pure]
  rfl

theorem ask_check_allBuilds_of_le {h : Host σ} {s : σ} {r : Resolved}
    (hle : r.requirements.buildMajor ≤ (r.installation .current).version.major) :
    ask h (.check .allBuilds) (s, r) = (.ok (.violations []), (s, r)) := by
  have hrule : Resolved.askRule .current (Rule.build h) (s, r) = (.ok none, (s, r)) :=
    ask_atLeast_of_le hle _ _
  have hcheck : Resolved.check h .allBuilds (s, r) = (.ok [], (s, r)) :=
    Action.run_bind_ok hrule _
  exact Action.run_bind_ok hcheck _

/-- Without the remote cache a new enough compiler passes, and nobody is asked. -/
theorem ask_check_compilation_of_le {h : Host σ} {s : σ} {r : Resolved}
    (hcache : r.remoteCache = false)
    (hle : r.requirements.compilationMajor ≤ (r.installation .compilation).version.major) :
    ask h (.check .compilation) (s, r) = (.ok (.violations []), (s, r)) := by
  have hrule : Resolved.askRule .compilation (Rule.compilation h) (s, r) = (.ok none, (s, r)) :=
    ask_atLeast_of_le hle _ _
  have hcheck : Resolved.check h .compilation (s, r) = (.ok [], (s, r)) := by
    have hskip : (if r.remoteCache then Resolved.askRule .current (Rule.remoteCache h)
        else pure none) (s, r) = (.ok none, (s, r)) := by
      rw [hcache]
      rfl
    rw [Resolved.check_compilation_eq, Action.run_bind_ok (Action.run_get _),
      Action.run_bind_ok hskip, Action.run_bind_ok hrule]
    rfl
  exact Action.run_bind_ok hcheck _

/-! ## Runs of requests -/

/-- Every run of requests remembers the labels. A request for a known label is answered from memory; one for
an unknown label makes one call, and nothing is remembered of a failure. Descriptions, comparisons, and
checks that the versions decide make no call. The sets that come from a resolution know no label yet and have
absolute homes, unless an empty one was given. -/
theorem run_remembers (h : Host σ) :
    (∀ requests s log r, ∃ es t r',
      (run h.logged requests ((s, log), r)).2 = ((t, log ++ es.map (·.home)), r') ∧
      Resolved.Remembered h (s, r) es (t, r')) ∧
    (∀ s log (r : Resolved) role label, (r.installation role).knownLabel = some label →
      ask h.logged (.label role) ((s, log), r) = (.ok (.text label), ((s, log), r))) ∧
    (∀ s t log (r : Resolved) role e, (r.installation role).knownLabel = none →
      h.probe (r.installation role).home s = (.error e, t) →
      ask h.logged (.label role) ((s, log), r)
        = (.error e, ((t, log ++ [(r.installation role).home]), r))) ∧
    (∀ s t log (r : Resolved) role p, (r.installation role).knownLabel = none →
      h.probe (r.installation role).home s = (.ok p, t) →
      ask h.logged (.label role) ((s, log), r) = (.ok (.text p.label),
        ((t, log ++ [(r.installation role).home]), r.learn role (.ok p))) ∧
      ∀ other, r.owner role = r.owner other →
        ((r.learn role (.ok p)).installation other).knownLabel = some p.label) ∧
    (∀ a b x, (ask h.logged (.describe a) x).2 = x ∧ (ask h.logged (.compare a b) x).2 = x) ∧
    (∀ s log (r : Resolved),
      r.requirements.buildMajor ≤ (r.installation .current).version.major →
      ask h.logged (.check .allBuilds) ((s, log), r) = (.ok (.violations []), ((s, log), r))) ∧
    (∀ s log (r : Resolved), r.remoteCache = false →
      r.requirements.compilationMajor ≤ (r.installation .compilation).version.major →
      ask h.logged (.check .compilation) ((s, log), r)
        = (.ok (.violations []), ((s, log), r))) ∧
    (∀ q cache home lookup s t r, Resolved.resolveBy h q cache home lookup s = (.ok r, t) →
      ∀ role, (r.installation role).knownLabel = none ∧
        ∃ u given, (r.installation role).home = (h.machine u).absolute given ∧
          (given.text ≠ "" → (r.installation role).home.isAbsolute = true)) := by
  refine ⟨?_, fun _ _ _ _ _ => ask_label_of_known, ?_, ?_, fun _ _ _ => ⟨rfl, rfl⟩,
    fun _ _ _ => ask_check_allBuilds_of_le, fun _ _ _ => ask_check_compilation_of_le, ?_⟩
  · intro requests s log r
    obtain ⟨es, he⟩ := enquired_run h.logged requests ((s, log), r)
    generalize (run h.logged requests ((s, log), r)).2 = y at he
    obtain ⟨⟨t, log'⟩, r'⟩ := y
    -- each enquiry is a call, so the log has its home
    have hm := he.remembered
    obtain ⟨hlog, hcalls⟩ := hm.calls.of_logged
    refine ⟨es, t, r', ?_, hcalls, hm.home_eq, hm.bare_eq, hm.known, hm.unknown⟩
    rw [show log' = _ from hlog, List.map_map]
    rfl
  · intro s t log r role e hunknown hcall
    exact ask_label_of_failed hunknown (Host.logged_probe_eq hcall log)
  · intro s t log r role p hunknown hcall
    exact ⟨ask_label_of_told hunknown (Host.logged_probe_eq hcall log),
      fun other howner => Resolved.knownLabel_learn_ok howner p⟩
  · intro q cache home lookup s t r hrun role
    obtain ⟨calls, hc⟩ := Resolved.Course.of_resolveBy hrun
    obtain ⟨u, given, v, hnew⟩ := hc.installation_new role
    rw [hnew]
    exact ⟨rfl, u, given, rfl, (h.machine u).isAbsolute_absolute⟩

end BuildJdk.Request
