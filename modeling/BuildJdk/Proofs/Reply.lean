import BuildJdk.Proofs.Standing

/-!
# What a set replies

While nothing changes on the machine, a resolved set replies as its installations stand: `replyOf` tells
each reply from the standings of the roles, without a look at what was asked before.

Main statements: every request but one for a description is answered so. None of them fails but a
validation, and that with the messages of the violated rules.
-/

namespace BuildJdk

open BuildJdk.Action (Answers)
open Handler (violationsOf)

variable {σ : Type} {h : Host σ} {answer : Path → Except Failure Probed} {m : Machine}

namespace Request

open Resolved (Steady Stands Tells judged)

/-- What the report says about the installation of a role. -/
def summaryOf (m : Machine) (r : Resolved) (st : Role → Standing) (role : Role) : Report.Summary where
  role := role
  home := (st role).home
  version := (st role).probed.version
  label := (st role).probed.label
  current := (r.installation role).current
  toolsJar := Home.toolsJar? m (st role).home

/-- The reply to a request; none to one for a description, which tells what happens to be remembered. -/
def replyOf (m : Machine) (r : Resolved) (st : Role → Standing) :
    Request → Option (Except Failure Reply)
  | check policy => some (.ok (.violations (violations policy)))
  | validate policy => some (judgedOf policy)
  | validateAllBuilds => some (judgedOf .allBuilds)
  | validateCompilation => some (judgedOf .compilation)
  | validateProduction => some (judgedOf .production)
  | label role => some (.ok (.text (st role).probed.label))
  | display role =>
    some (.ok (.text ((st role).probed.label ++ " (" ++ (st role).home.text ++ ")")))
  | toolsJar role => some (.ok (.path (Home.toolsJar? m (st role).home)))
  | report format => some (.ok (.text
      (Report.resolvedText r.remoteCache (Report.roles.map (summaryOf m r st)) format)))
  | describe _ => none
  | compare a b => some (.ok (.truth ((r.installation a).isSame (r.installation b))))
where
  violations (policy : Policy) : List Violation :=
    violationsOf r.requirements r.remoteCache (st .current) (st .compilation) policy
  judgedOf (policy : Policy) : Except Failure Reply :=
    (judged (violations policy)).map fun () => .satisfied

/-- A judgement fails with the messages of the violations, and not otherwise. -/
theorem violated_of_judged {vs : List Violation} {e : Failure} (hj : judged vs = .error e) :
    e = .violated (vs.map (·.message)) := by
  unfold judged at hj
  by_cases hvs : vs = []
  · rw [if_pos hvs] at hj
    cases hj
  · rw [if_neg hvs] at hj
    cases hj
    rfl

theorem violated_of_judgedOf {r : Resolved} {st : Role → Standing} {policy : Policy} {e : Failure}
    (he : replyOf.judgedOf r st policy = .error e) : ∃ messages, e = .violated messages := by
  unfold replyOf.judgedOf at he
  cases hj : judged (replyOf.violations r st policy) with
  | error e' =>
    rw [hj] at he
    cases he
    exact ⟨_, violated_of_judged hj⟩
  | ok _ =>
    rw [hj] at he
    cases he

/-- Nothing fails but a validation. -/
theorem violated_of_replyOf {r : Resolved} {st : Role → Standing} {request : Request} {e : Failure}
    (he : replyOf m r st request = some (.error e)) : ∃ messages, e = .violated messages := by
  cases request with
  | validate policy => exact violated_of_judgedOf (Option.some.inj he)
  | validateAllBuilds => exact violated_of_judgedOf (Option.some.inj he)
  | validateCompilation => exact violated_of_judgedOf (Option.some.inj he)
  | validateProduction => exact violated_of_judgedOf (Option.some.inj he)
  | _ => cases he

/-! ## Parts of the replies -/

section

variable {r : Resolved} {st : Role → Standing}
  (hprobe : h.AnswersWithin (h.machine · = m) answer)
  (htells : ∀ role, Tells answer (r.installation role) (st role))

include hprobe htells

theorem stands_of_tells (role : Role) : Stands h (Steady h answer m r) role (st role) :=
  (htells role).stands (fun _ hx => hx.1.bare_eq) (Resolved.answers_label_of_steady hprobe r role)

/-- A check is answered by how the installations stand. -/
theorem answers_check_of_tells (policy : Policy) :
    Answers (Steady h answer m r) (Resolved.check h policy)
      (.ok (replyOf.violations r st policy)) :=
  Resolved.answers_check (fun _ hx => Resolved.requirements_eq_of_bare_eq hx.1.bare_eq)
    (fun _ hx => Resolved.remoteCache_eq_of_bare_eq hx.1.bare_eq)
    (stands_of_tells hprobe htells .current) (stands_of_tells hprobe htells .compilation) policy

/-- A validation is answered by how the installations stand. -/
theorem answers_validate_of_tells (policy : Policy) :
    Answers (Steady h answer m r)
      (Resolved.validate h policy >>= fun _ => pure Reply.satisfied) (replyOf.judgedOf r st policy) := by
  have hv := Resolved.answers_validate (answers_check_of_tells hprobe htells policy)
  unfold replyOf.judgedOf
  cases hj : judged (replyOf.violations r st policy) with
  | error e =>
    rw [hj] at hv
    exact hv.bind_error _
  | ok _ =>
    rw [hj] at hv
    exact hv.bind_ok (.pure _)

theorem answers_display_of_tells (role : Role) :
    Answers (Steady h answer m r) (Resolved.ask role (Installation.display h))
      (.ok ((st role).probed.label ++ " (" ++ (st role).home.text ++ ")")) := by
  have hs := stands_of_tells hprobe htells role
  rw [Resolved.display_eq, Resolved.ask_bind]
  -- the attempt is one of the question, and the question is not asked of another role
  have hattempt : Answers (Steady h answer m r)
      (Resolved.ask role (Action.attempt (Installation.label h))) (.ok (.ok (st role).probed.label)) :=
    hs.answers_label.attempt
  refine hattempt.bind_ok ?_
  rw [Resolved.ask_get_bind]
  refine .get fun x hx => ?_
  dsimp only
  rw [hs.home_eq x hx, Resolved.ask_pure]
  exact .pure _

omit hprobe in
theorem answers_toolsJar_of_tells (role : Role) :
    Answers (Steady h answer m r) (Resolved.ask role (Installation.toolsJar h))
      (.ok (Home.toolsJar? m (st role).home)) := by
  rw [← (htells role).home_eq]
  exact Resolved.answers_toolsJar h answer m r role

/-- The summary of a role tells how its installation stands. -/
theorem answers_summary_of_tells (role : Role) :
    Answers (Steady h answer m r) (Report.Summary.of h role) (.ok (summaryOf m r st role)) := by
  have hs := stands_of_tells hprobe htells role
  unfold Report.Summary.of
  rw [Resolved.ask_bind]
  refine hs.answers_label.bind_ok ?_
  rw [Resolved.ask_bind]
  refine (answers_toolsJar_of_tells htells role).bind_ok ?_
  rw [Resolved.ask_get_bind]
  refine .get fun x hx => ?_
  dsimp only
  rw [hs.home_eq x hx, hs.version_eq x hx, Resolved.current_eq_of_bare_eq hx.1.bare_eq,
    Resolved.ask_pure]
  exact .pure _

/-- A report tells how the three installations stand. -/
theorem answers_report_of_tells (format : Format) :
    Answers (Steady h answer m r) (Report.resolved h format)
      (.ok (Report.resolvedText r.remoteCache (Report.roles.map (summaryOf m r st)) format)) := by
  unfold Report.resolved
  refine (Answers.mapM (answers_summary_of_tells hprobe htells) Report.roles).bind_ok ?_
  refine .get fun x hx => ?_
  rw [Resolved.remoteCache_eq_of_bare_eq hx.1.bare_eq]
  exact .pure _

/-! ## Replies -/

/-- In every steady state a request is answered as the installations stand. -/
theorem answers_replyOf {request : Request} {reply : Except Failure Reply}
    (hr : replyOf m r st request = some reply) :
    Answers (Steady h answer m r) (request.ask h) reply := by
  cases request with
  | check policy =>
    cases hr
    exact (answers_check_of_tells hprobe htells policy).bind_ok (.pure _)
  | validate policy =>
    cases hr
    exact answers_validate_of_tells hprobe htells policy
  | validateAllBuilds =>
    cases hr
    exact answers_validate_of_tells hprobe htells .allBuilds
  | validateCompilation =>
    cases hr
    exact answers_validate_of_tells hprobe htells .compilation
  | validateProduction =>
    cases hr
    exact answers_validate_of_tells hprobe htells .production
  | label role =>
    cases hr
    exact (stands_of_tells hprobe htells role).answers_label.bind_ok (.pure _)
  | display role =>
    cases hr
    exact (answers_display_of_tells hprobe htells role).bind_ok (.pure _)
  | toolsJar role =>
    cases hr
    exact (answers_toolsJar_of_tells htells role).bind_ok (.pure _)
  | report format =>
    cases hr
    exact (answers_report_of_tells hprobe htells format).bind_ok (.pure _)
  | describe role => cases hr
  | compare a b =>
    cases hr
    refine .get fun x hx => ?_
    dsimp only
    rw [Resolved.isSame_eq_of_bare_eq hx.1.bare_eq]
    exact .pure _

/-- A description does not fail, and no other request does but a validation. -/
theorem violated_of_ask {request : Request} {x : σ × Resolved} (hx : Steady h answer m r x)
    {e : Failure} (he : (request.ask h x).1 = .error e) : ∃ messages, e = .violated messages := by
  cases hr : replyOf m r st request with
  | some reply =>
    rw [(answers_replyOf hprobe htells hr x hx).1] at he
    exact violated_of_replyOf (hr.trans (congrArg some he))
  | none =>
    cases request with
    | describe role => cases he
    | _ => cases hr

end

end Request

end BuildJdk
