import BuildJdk.Proofs.Action
import BuildJdk.Resolved

/-!
# Roles that share an installation

A role without an installation of its own uses the current one. So the installations of a build are told
apart by their *owners*: two roles have the same installation just if they have the same owner, and what
is changed about an installation is seen in all its roles and in no other.

What is remembered about an installation may change; the rest of it is *bare*, and never does.
-/

namespace BuildJdk

/-! ## What never changes -/

namespace Installation

/-- The installation with nothing remembered about it. -/
def bare (i : Installation) : Installation := { i with knownLabel := none, knownToolsJar := none }

@[simp] theorem bare_current (i : Installation) : i.bare.current = i.current := rfl

@[simp] theorem bare_home (i : Installation) : i.bare.home = i.home := rfl

@[simp] theorem bare_version (i : Installation) : i.bare.version = i.version := rfl

/-- The installation with its label remembered. -/
def withLabel (i : Installation) (label : String) : Installation := { i with knownLabel := some label }

@[simp] theorem bare_withLabel (i : Installation) (label : String) :
    (i.withLabel label).bare = i.bare := rfl

/-- The installation with its library of development tools, or the absence of it, remembered. -/
def withToolsJar (i : Installation) (jar : Option Path) : Installation :=
  { i with knownToolsJar := some jar }

@[simp] theorem bare_withToolsJar (i : Installation) (jar : Option Path) :
    (i.withToolsJar jar).bare = i.bare := rfl

/-- A label is remembered, or the probe is asked for it now; only what it tells is remembered. -/
theorem label_cases {σ : Type} {h : Host σ} {s s' : σ} {i i' : Installation}
    {answer : Except Failure String} (hl : Installation.label h (s, i) = (answer, (s', i'))) :
    (∃ label, i.knownLabel = some label ∧ answer = .ok label ∧ s' = s ∧ i' = i) ∨
    (∃ p, h.probe i.home s = (.ok p, s') ∧ answer = .ok p.label ∧
      i' = { i with knownLabel := some p.label }) ∨
    (∃ e, h.probe i.home s = (.error e, s') ∧ answer = .error e ∧ i' = i) := by
  unfold Installation.label at hl
  cases hknown : i.knownLabel with
  | some label =>
    simp only [hknown] at hl
    cases hl
    exact Or.inl ⟨label, rfl, rfl, rfl, rfl⟩
  | none =>
    simp only [hknown] at hl
    rcases hcall : h.probe i.home s with ⟨e | p, t⟩
    · simp only [hcall] at hl
      cases hl
      exact Or.inr (Or.inr ⟨e, rfl, rfl, rfl⟩)
    · simp only [hcall] at hl
      cases hl
      exact Or.inr (Or.inl ⟨p, rfl, rfl, rfl⟩)

end Installation

namespace Resolved

variable {σ α β : Type}

/-- The installations of a build with nothing remembered about them. -/
def bare (r : Resolved) : Resolved :=
  { r with
    current := r.current.bare
    ownTest := r.ownTest.map (·.bare)
    ownCompilation := r.ownCompilation.map (·.bare) }

/-! ## Owners -/

/-- The role that stands for the installation of a role: the current one, unless the role has an
installation of its own. -/
def owner (r : Resolved) (role : Role) : Role := if r.usesCurrent role then .current else role

@[simp] theorem installation_current (r : Resolved) : r.installation .current = r.current := rfl

/-- A role that uses the current installation has no other. -/
theorem installation_of_usesCurrent {r : Resolved} {role : Role} (h : r.usesCurrent role = true) :
    r.installation role = r.current := by
  unfold usesCurrent at h
  unfold installation
  rw [Option.isNone_iff_eq_none.mp h]
  rfl

theorem usesCurrent_of_own_none {r : Resolved} {role : Role} (h : r.own? role = none) :
    r.usesCurrent role = true := Option.isNone_iff_eq_none.mpr h

/-- A role with an installation of its own has just that one. -/
theorem installation_of_own {r : Resolved} {role : Role} {i : Installation}
    (h : r.own? role = some i) : r.installation role = i := by
  unfold installation
  rw [h]
  rfl

/-- A role has the installation of its owner. -/
theorem installation_owner (r : Resolved) (role : Role) :
    r.installation (r.owner role) = r.installation role := by
  unfold owner
  split
  · next h => rw [installation_of_usesCurrent h, installation_current]
  · rfl

/-- Roles of one owner have the same installation. -/
theorem installation_eq_of_owner_eq {r : Resolved} {a b : Role} (h : r.owner a = r.owner b) :
    r.installation a = r.installation b := by
  rw [← installation_owner r a, h, installation_owner]

/-- A change to an installation is seen in the roles of its owner, and in no other role. -/
theorem installation_withInstallation (r : Resolved) (a b : Role) (i : Installation) :
    (r.withInstallation a i).installation b
      = if r.owner a = r.owner b then i else r.installation b := by
  rcases r with ⟨c, _ | t, _ | k, q, m⟩ <;> cases a <;> cases b <;> rfl

/-- What a change leaves alone about an installation stays as it is in all roles. -/
theorem field_withInstallation (f : Installation → β) {r : Resolved} {role : Role} {i : Installation}
    (hf : f i = f (r.installation role)) (other : Role) :
    f ((r.withInstallation role i).installation other) = f (r.installation other) := by
  rw [installation_withInstallation]
  by_cases howner : r.owner role = r.owner other
  · rw [if_pos howner, hf, installation_eq_of_owner_eq howner]
  · rw [if_neg howner]

/-- Remembering a library leaves the memory of the labels as it is, in every role. -/
theorem knownLabel_withToolsJar (r : Resolved) (role other : Role) (jar : Option Path) :
    ((r.withInstallation role ((r.installation role).withToolsJar jar)).installation
      other).knownLabel = (r.installation other).knownLabel := by
  have hkept : ((r.installation role).withToolsJar jar).knownLabel
      = (r.installation role).knownLabel := rfl
  exact field_withInstallation (·.knownLabel) hkept other

@[simp] theorem installation_withInstallation_self (r : Resolved) (role : Role) (i : Installation) :
    (r.withInstallation role i).installation role = i := by
  rw [installation_withInstallation, if_pos rfl]

@[simp] theorem withInstallation_installation (r : Resolved) (role : Role) :
    r.withInstallation role (r.installation role) = r := by
  rcases r with ⟨c, _ | t, _ | k, q, m⟩ <;> cases role <;> rfl

@[simp] theorem withInstallation_withInstallation (r : Resolved) (role : Role)
    (i j : Installation) :
    (r.withInstallation role i).withInstallation role j = r.withInstallation role j := by
  rcases r with ⟨c, _ | t, _ | k, q, m⟩ <;> cases role <;> rfl

/-- A change in one role gives no other role an installation of its own, and takes none away. -/
theorem own?_withInstallation_of_ne {role other : Role} (hne : other ≠ role) (r : Resolved)
    (i : Installation) : (r.withInstallation role i).own? other = r.own? other := by
  rcases r with ⟨c, _ | t, _ | k, q, m⟩ <;> cases role <;> cases other <;>
    first | rfl | exact absurd rfl hne

@[simp] theorem remoteCache_withInstallation (r : Resolved) (role : Role) (i : Installation) :
    (r.withInstallation role i).remoteCache = r.remoteCache := by
  rcases r with ⟨c, _ | t, _ | k, q, m⟩ <;> cases role <;> rfl

@[simp] theorem requirements_withInstallation (r : Resolved) (role : Role) (i : Installation) :
    (r.withInstallation role i).requirements = r.requirements := by
  rcases r with ⟨c, _ | t, _ | k, q, m⟩ <;> cases role <;> rfl

/-! ## The bare set -/

@[simp] theorem bare_usesCurrent (r : Resolved) (role : Role) :
    r.bare.usesCurrent role = r.usesCurrent role := by
  rcases r with ⟨c, _ | t, _ | k, q, m⟩ <;> cases role <;> rfl

theorem bare_installation (r : Resolved) (role : Role) :
    r.bare.installation role = (r.installation role).bare := by
  rcases r with ⟨c, _ | t, _ | k, q, m⟩ <;> cases role <;> rfl

/-- What is remembered of an installation may change, and the bare set stays. -/
theorem bare_withInstallation {r : Resolved} {role : Role} {i : Installation}
    (h : i.bare = (r.installation role).bare) : (r.withInstallation role i).bare = r.bare := by
  rcases r with ⟨c, _ | t, _ | k, q, m⟩ <;> cases role <;> simp_all [bare, withInstallation,
    usesCurrent, own?, installation]

/-- Sets with the same bare set share their installations in the same way. -/
theorem owner_eq_of_bare_eq {r r' : Resolved} (h : r'.bare = r.bare) (role : Role) :
    r'.owner role = r.owner role := by
  unfold owner
  rw [← bare_usesCurrent r', h, bare_usesCurrent]

/-- Sets with the same bare set differ in each role by what is remembered at most. -/
theorem installation_bare_eq {r r' : Resolved} (h : r'.bare = r.bare) (role : Role) :
    (r'.installation role).bare = (r.installation role).bare := by
  rw [← bare_installation, h, bare_installation]

theorem home_eq_of_bare_eq {r r' : Resolved} (h : r'.bare = r.bare) (role : Role) :
    (r'.installation role).home = (r.installation role).home := by
  rw [← Installation.bare_home, installation_bare_eq h, Installation.bare_home]

theorem version_eq_of_bare_eq {r r' : Resolved} (h : r'.bare = r.bare) (role : Role) :
    (r'.installation role).version = (r.installation role).version := by
  rw [← Installation.bare_version, installation_bare_eq h, Installation.bare_version]

theorem requirements_eq_of_bare_eq {r r' : Resolved} (h : r'.bare = r.bare) :
    r'.requirements = r.requirements :=
  show r'.bare.requirements = r.bare.requirements from congrArg Resolved.requirements h

theorem remoteCache_eq_of_bare_eq {r r' : Resolved} (h : r'.bare = r.bare) :
    r'.remoteCache = r.remoteCache :=
  show r'.bare.remoteCache = r.bare.remoteCache from congrArg Resolved.remoteCache h

theorem current_eq_of_bare_eq {r r' : Resolved} (h : r'.bare = r.bare) (role : Role) :
    (r'.installation role).current = (r.installation role).current := by
  rw [← Installation.bare_current, installation_bare_eq h, Installation.bare_current]

/-! ## Asking the installation of a role

A question made of parts is asked part by part.
-/

/-- An answer to a role is that of its installation, and what the installation remembers is put back. -/
theorem ask_run (role : Role) (q : Installation.Question σ α) (s : σ) (r : Resolved) :
    ask role q (s, r) = ((q (s, r.installation role)).1, ((q (s, r.installation role)).2.1,
      r.withInstallation role (q (s, r.installation role)).2.2)) := rfl

theorem ask_pure (role : Role) (a : α) :
    ask role (pure a : Installation.Question σ α) = pure a := by
  funext ⟨s, r⟩
  rw [ask_run, Action.run_pure, Action.run_pure, withInstallation_installation]

/-- A question in two parts is asked part by part. -/
theorem ask_bind (role : Role) (x : Installation.Question σ α)
    (k : α → Installation.Question σ β) :
    ask role (x >>= k) = ask role x >>= fun a => ask role (k a) := by
  funext ⟨s, r⟩
  rw [ask_run, Action.run_bind, Action.run_bind, ask_run]
  rcases x (s, r.installation role) with ⟨e | a, s', i⟩
  · rfl
  · -- the second part sees the installation as the first one left it
    simp only [ask_run, installation_withInstallation_self, withInstallation_withInstallation]

/-- A question that looks at its installation first looks at the set. -/
theorem ask_get_bind (role : Role) (k : σ × Installation → Installation.Question σ α) :
    ask role (get >>= k) = get >>= fun x => ask role (k (x.1, x.2.installation role)) := by
  funext ⟨s, r⟩
  rw [ask_run, Action.run_bind_ok (Action.run_get _), Action.run_bind_ok (Action.run_get _),
    ask_run]

theorem ask_ite (role : Role) (c : Prop) [Decidable c] (x y : Installation.Question σ α) :
    ask role (if c then x else y) = if c then ask role x else ask role y := by
  split <;> rfl

end Resolved

end BuildJdk
