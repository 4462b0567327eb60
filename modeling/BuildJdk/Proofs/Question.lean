import BuildJdk.Proofs.Request

/-!
# Plain questions

A plain question learns about the installations of a build in two ways: it looks at what never changes, or
it asks for labels and for libraries of development tools. All requests to a resolved set are plain, but
for the description of an installation, which tells what is remembered.

So what is kept by a request for a label and by one for a library is kept by every plain question, and
is proved by induction on how the question is made.
-/

namespace BuildJdk

open Resolved (ask)

namespace Resolved

variable {σ : Type}

/-- A question that is made of looks at what never changes and of requests for labels and libraries. -/
inductive Plain (h : Host σ) : {α : Type} → Question σ α → Prop
  | done {α : Type} (a : α) : Plain h (pure a)
  | fail {α : Type} (e : Failure) : Plain h (throw e : Question σ α)
  | label (role : Role) : Plain h (ask role (Installation.label h))
  | toolsJar (role : Role) : Plain h (ask role (Installation.toolsJar h))
  | andThen {α β : Type} {x : Question σ α} {k : α → Question σ β} :
      Plain h x → (∀ a, Plain h (k a)) → Plain h (x >>= k)
  | look {α : Type} {k : σ × Resolved → Question σ α} :
      (∀ x y, y.2.bare = x.2.bare → k y = k x) → (∀ x, Plain h (k x)) → Plain h (get >>= k)
  | attempt {α : Type} {x : Question σ α} : Plain h x → Plain h (Action.attempt x)

variable {h : Host σ} {α : Type}

theorem Plain.ite {c : Prop} [Decidable c] {x y : Question σ α} (hx : Plain h x) (hy : Plain h y) :
    Plain h (if c then x else y) := by
  split
  · exact hx
  · exact hy

/-! ## Rules and policies -/

/-- A rule about the version is a plain question. -/
theorem plain_atLeast (role : Role) (major : Nat) (policy : Policy)
    (message : String → Path → String) :
    Plain h (ask role (Rule.atLeast h major policy message)) := by
  unfold Rule.atLeast
  rw [ask_get_bind]
  refine .look (fun x y hbare => ?_) fun x => ?_
  · dsimp only
    rw [version_eq_of_bare_eq hbare, home_eq_of_bare_eq hbare]
  · dsimp only
    rw [ask_ite, ask_pure, ask_bind]
    refine Plain.ite (.done _) (.andThen (.label role) fun label => ?_)
    rw [ask_pure]
    exact .done _

/-- A rule about the label is a plain question. -/
theorem plain_labelled (role : Role) (required : String) (policy : Policy)
    (message : String → Path → String) :
    Plain h (ask role (Rule.labelled h required policy message)) := by
  unfold Rule.labelled
  rw [ask_bind]
  refine .andThen (.label role) fun label => ?_
  rw [ask_ite, ask_pure, ask_get_bind]
  refine Plain.ite (.done _) (.look (fun x y hbare => ?_) fun x => ?_)
  · dsimp only
    rw [home_eq_of_bare_eq hbare]
  · rw [ask_pure]
    exact .done _

theorem plain_askRule {rule : Requirements → Installation.Question σ (Option Violation)} (role : Role)
    (hrule : ∀ q, Plain h (ask role (rule q))) : Plain h (askRule role rule) := by
  refine .look (fun x y hbare => ?_) fun x => hrule x.2.requirements
  rw [requirements_eq_of_bare_eq hbare]

/-- The rule of the remote cache is asked about first, if it is asked about. -/
theorem check_compilation_eq : check h .compilation = get >>= fun x =>
    (if x.2.remoteCache then askRule .current (Rule.remoteCache h) else pure none) >>= fun cache =>
      askRule .compilation (Rule.compilation h) >>= fun own =>
        pure (cache.toList ++ own.toList) := by
  refine congrArg (get >>= ·) (funext fun x => ?_)
  dsimp only
  split <;> rfl

/-- Every check is a plain question. -/
theorem plain_check (policy : Policy) : Plain h (check h policy) := by
  cases policy with
  | allBuilds =>
    exact .andThen (plain_askRule _ fun _ => plain_atLeast _ _ _ _) fun _ => .done _
  | remoteCache =>
    exact .andThen (plain_askRule _ fun _ => plain_labelled _ _ _ _) fun _ => .done _
  | production =>
    exact .andThen (plain_askRule _ fun _ => plain_labelled _ _ _ _) fun _ => .done _
  | compilation =>
    rw [check_compilation_eq]
    refine .look (fun x y hbare => ?_) fun x => ?_
    · rw [remoteCache_eq_of_bare_eq hbare]
    · refine .andThen (Plain.ite ?_ (.done none)) fun cache => ?_
      · exact plain_askRule _ fun _ => plain_labelled _ _ _ _
      · exact .andThen (plain_askRule _ fun _ => plain_atLeast _ _ _ _) fun _ => .done _

theorem plain_validate (policy : Policy) : Plain h (validate h policy) :=
  .andThen (plain_check policy) fun _ => Plain.ite (.done _) (.fail _)

/-! ## Reports -/

/-- The installation is shown by its label, if that can be told. -/
theorem display_eq : Installation.display h = Action.attempt (Installation.label h) >>= fun answer =>
    get >>= fun x => pure <| match answer with
      | .ok label => label ++ " (" ++ x.2.home.text ++ ")"
      | .error _ => "Java " ++ x.2.version.text ++ " (" ++ x.2.home.text ++ ")" := by
  funext s
  rw [Action.run_bind_ok (show Action.attempt (Installation.label h) s = _ from rfl)]
  unfold Installation.display
  rcases Installation.label h s with ⟨e | label, s', i⟩ <;> rfl

theorem plain_display (role : Role) : Plain h (ask role (Installation.display h)) := by
  rw [display_eq, ask_bind]
  refine .andThen (.attempt (.label role)) fun answer => ?_
  rw [ask_get_bind]
  refine .look (fun x y hbare => ?_) fun x => ?_
  · rw [home_eq_of_bare_eq hbare, version_eq_of_bare_eq hbare]
  · rw [ask_pure]
    exact .done _

/-- The summary of a role is a plain question. -/
theorem plain_summary (role : Role) : Plain h (Report.Summary.of h role) := by
  unfold Report.Summary.of
  rw [ask_bind]
  refine .andThen (.label role) fun label => ?_
  rw [ask_bind]
  refine .andThen (.toolsJar role) fun jar => ?_
  rw [ask_get_bind]
  refine .look (fun x y hbare => ?_) fun x => ?_
  · dsimp only
    rw [home_eq_of_bare_eq hbare, version_eq_of_bare_eq hbare, current_eq_of_bare_eq hbare]
  · rw [ask_pure]
    exact .done _

theorem plain_mapM {β : Type} {f : β → Question σ α} (hf : ∀ b, Plain h (f b)) (bs : List β) :
    Plain h (bs.mapM f) := by
  induction bs with
  | nil => exact .done []
  | cons b bs ih =>
    rw [List.mapM_cons]
    exact .andThen (hf b) fun _ => .andThen ih fun _ => .done _

theorem plain_report (format : Format) : Plain h (Report.resolved h format) := by
  refine .andThen (plain_mapM plain_summary _) fun summaries => .look (fun x y hbare => ?_) fun x => ?_
  · rw [remoteCache_eq_of_bare_eq hbare]
  · exact .done _

/-- Whether two installations are equal is not a matter of what is remembered about them. -/
theorem isSame_eq_of_bare_eq {r r' : Resolved} (hbare : r'.bare = r.bare) (a b : Role) :
    (r'.installation a).isSame (r'.installation b)
      = (r.installation a).isSame (r.installation b) := by
  unfold Installation.isSame
  rw [current_eq_of_bare_eq hbare, home_eq_of_bare_eq hbare, version_eq_of_bare_eq hbare,
    current_eq_of_bare_eq hbare, home_eq_of_bare_eq hbare, version_eq_of_bare_eq hbare]

end Resolved

/-- All requests are plain but the description of an installation. -/
theorem Request.plain_ask {σ : Type} (h : Host σ) {request : Request}
    (hr : ∀ role, request ≠ .describe role) : Resolved.Plain h (request.ask h) := by
  cases request with
  | check policy => exact .andThen (Resolved.plain_check policy) fun _ => .done _
  | validate policy => exact .andThen (Resolved.plain_validate policy) fun _ => .done _
  | validateAllBuilds => exact .andThen (Resolved.plain_validate _) fun _ => .done _
  | validateCompilation => exact .andThen (Resolved.plain_validate _) fun _ => .done _
  | validateProduction => exact .andThen (Resolved.plain_validate _) fun _ => .done _
  | label role => exact .andThen (.label role) fun _ => .done _
  | display role => exact .andThen (Resolved.plain_display role) fun _ => .done _
  | toolsJar role => exact .andThen (.toolsJar role) fun _ => .done _
  | report format => exact .andThen (Resolved.plain_report format) fun _ => .done _
  | describe role => exact absurd rfl (hr role)
  | compare a b =>
    refine .look (fun x y hbare => ?_) fun x => .done _
    dsimp only
    rw [Resolved.isSame_eq_of_bare_eq hbare]

end BuildJdk
