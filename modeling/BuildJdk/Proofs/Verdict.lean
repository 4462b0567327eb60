import BuildJdk.Program
import BuildJdk.Proofs.JsonText
import BuildJdk.Proofs.Output

/-!
# One verdict, told in four ways

A validation tells its verdict by its result, by the text of its failure, by its report and by the exit code
of the program. Each is computed on its own, from the same verdicts on the policies.

Main statement: the four agree. The report in JSON is read back for it: as one document, in which the members
are looked up by their keys.
-/

namespace BuildJdk

namespace Report

/-! ## Reading a report -/

/-- What a report on checked policies tells: whether they are all satisfied and, for each of them, the
violated rules with their policies and messages. -/
structure Findings where
  success : Bool
  policies : List (String × List (String × String))
  deriving DecidableEq, Repr

/-- The string under a key. -/
def stringAt? (key : String) (j : Json) : Option String :=
  match j.get? key with
  | some (.string s) => some s
  | _ => none

/-- The items of the array under a key. -/
def itemsAt? (key : String) (j : Json) : Option (List Json) :=
  match j.get? key with
  | some (.array items) => some items
  | _ => none

/-- The truth value under a key. -/
def booleanAt? (key : String) (j : Json) : Option Bool :=
  match j.get? key with
  | some (.boolean b) => some b
  | _ => none

/-- A violated rule, read from an object. -/
def readViolation? (j : Json) : Option (String × String) := do
  let policy ← stringAt? "policy" j
  let message ← stringAt? "message" j
  return (policy, message)

/-- A checked policy, read from an object. -/
def readVerdict? (j : Json) : Option (String × List (String × String)) := do
  let policy ← stringAt? "policy" j
  let items ← itemsAt? "violations" j
  let violations ← items.mapM readViolation?
  return (policy, violations)

/-- A report, read from an object. -/
def readFindings? (j : Json) : Option Findings := do
  let success ← booleanAt? "success" j
  let items ← itemsAt? "policies" j
  let policies ← items.mapM readVerdict?
  return { success, policies }

/-- What there is to tell about a checked policy. -/
def Verdict.listed (v : Verdict) : String × List (String × String) :=
  (v.policy.key, v.violations.map fun x => (x.policy.key, x.message))

/-! ## What the report writes -/

theorem mapM_map_eq_some {α β : Type} {f : Json → Option β} {g : α → Json} {k : α → β}
    (h : ∀ a, f (g a) = some (k a)) (as : List α) : (as.map g).mapM f = some (as.map k) := by
  induction as with
  | nil => rfl
  | cons a as ih =>
    rw [List.map_cons, List.mapM_cons, h, ih]
    rfl

/-- A violation is read back as the key of its policy and its message. -/
theorem readViolation?_violationJson (x : Violation) :
    readViolation? (violationJson x) = some (x.policy.key, x.message) := rfl

/-- A verdict is read back as its policy with the violations of it. -/
theorem readVerdict?_toJson (v : Verdict) : readVerdict? v.toJson = some v.listed := by
  have hitems := mapM_map_eq_some readViolation?_violationJson v.violations
  show ((v.violations.map violationJson).mapM readViolation? >>= _) = _
  rw [hitems]
  rfl

theorem within_violationJson (x : Violation) : Json.Within 1 (violationJson x) := by
  refine .object fun m hm => ?_
  simp only [List.mem_cons, List.not_mem_nil, or_false] at hm
  rcases hm with rfl | rfl <;> exact .string

/-- A verdict is nested three deep at most. -/
theorem within_toJson (v : Verdict) : Json.Within 3 v.toJson := by
  have hitems : Json.Within 2 (.array (v.violations.map violationJson)) := by
    refine .array fun item hitem => ?_
    obtain ⟨x, -, rfl⟩ := List.mem_map.mp hitem
    exact within_violationJson x
  refine .object fun m hm => ?_
  simp only [List.mem_cons, List.not_mem_nil, or_false] at hm
  rcases hm with rfl | rfl
  · exact .string
  · exact hitems

/-- The report in JSON is one document, which tells of each policy and each violated rule in order. -/
theorem readFindings?_validation (verdicts : List Verdict) :
    (Json.parse? (validation verdicts .json)).bind readFindings?
      = some { success := allSatisfied verdicts, policies := verdicts.map Verdict.listed } := by
  have hwithin : Json.Within 5 (.object [
      ("policies", .array (verdicts.map Verdict.toJson)),
      ("success", .boolean (allSatisfied verdicts))]) := by
    refine .object fun m hm => ?_
    simp only [List.mem_cons, List.not_mem_nil, or_false] at hm
    rcases hm with rfl | rfl
    · refine .array fun item hitem => ?_
      obtain ⟨v, -, rfl⟩ := List.mem_map.mp hitem
      exact within_toJson v
    · exact .boolean
  have hitems := mapM_map_eq_some readVerdict?_toJson verdicts
  unfold validation
  rw [Json.parse?_document hwithin]
  show ((verdicts.map Verdict.toJson).mapM readVerdict? >>= _) = _
  rw [hitems]
  rfl

theorem allSatisfied_iff (verdicts : List Verdict) :
    allSatisfied verdicts = true ↔ ∀ v ∈ verdicts, v.violations = [] := by
  simp [allSatisfied]

/-- There are messages just if some policy is violated. -/
theorem messages_eq_nil_iff (verdicts : List Verdict) :
    messages verdicts = [] ↔ ∀ v ∈ verdicts, v.violations = [] := by
  simp [messages, List.flatMap_eq_nil_iff]

end Report

namespace Handler

/-- The outcome of a validation agrees with the verdicts on the policies. -/
structure Tells (verdicts : List Report.Verdict) (json : Bool) (o : Outcome) : Prop where
  /-- It succeeds just if no rule is violated. -/
  succeeds_iff : o.result = .ok () ↔ ∀ v ∈ verdicts, v.violations = []
  /-- Otherwise it fails with all the messages, and says what the report in words says. -/
  fails : o.result ≠ .ok () → ∃ messages, o.result = .error (.violated messages) ∧
    messages = verdicts.flatMap (fun v => v.violations.map (·.message)) ∧
    (Failure.violated messages).message ++ "\n" = Report.validation verdicts .text
  /-- The report in JSON is printed in either case, and tells of all policies and messages in order. -/
  printed_json : json = true →
    ∃ success, (Json.parse? o.output).bind Report.readFindings?
        = some { success, policies := verdicts.map Report.Verdict.listed } ∧
      (success = true ↔ o.result = .ok ())
  /-- The report in words is printed just if it succeeds. -/
  printed_text : json = false →
    (o.result = .ok () → o.output = Report.validation verdicts .text) ∧
    (o.result ≠ .ok () → o.output = "")

/-- What is concluded from the verdicts tells them. -/
theorem tells_concluded (verdicts : List Report.Verdict) (json : Bool) :
    Tells verdicts json (concluded verdicts json) := by
  have hjson := Report.readFindings?_validation verdicts
  -- the outcome looks at the messages, and the report at the policies: both ask for violations
  by_cases hnone : ∀ v ∈ verdicts, v.violations = []
  · have hmessages := (Report.messages_eq_nil_iff verdicts).mpr hnone
    have hsatisfied := (Report.allSatisfied_iff verdicts).mpr hnone
    have houtcome : concluded verdicts json
        = { output := Report.validation verdicts (.ofFlag json), result := .ok () } :=
      if_pos hmessages
    rw [houtcome]
    refine ⟨iff_of_true rfl hnone, fun h => absurd rfl h, ?_, ?_⟩
    · rintro rfl
      exact ⟨_, hjson, iff_of_true hsatisfied rfl⟩
    · rintro rfl
      exact ⟨fun _ => rfl, fun h => absurd rfl h⟩
  · have hmessages := mt (Report.messages_eq_nil_iff verdicts).mp hnone
    have hsatisfied := mt (Report.allSatisfied_iff verdicts).mp hnone
    have houtcome : concluded verdicts json
        = { output := if json then Report.validation verdicts .json else ""
            result := .error (.violated (Report.messages verdicts)) } := if_neg hmessages
    rw [houtcome]
    refine ⟨iff_of_false nofun hnone, fun _ => ⟨_, rfl, rfl, ?_⟩, ?_, ?_⟩
    · exact (if_neg hsatisfied).symm
    · rintro rfl
      exact ⟨_, hjson, iff_of_false hsatisfied nofun⟩
    · rintro rfl
      exact ⟨nofun, fun _ => rfl⟩

end Handler

namespace Program

open CommandLine (Invocation)

/-- How a run of the program ends that reads an invocation. -/
structure Ends (launch : Launcher) (m : Machine) (i : Invocation) (r : Result) : Prop where
  zero_iff : r.exitCode = 0 ↔ ∃ H, handler launch m i.options = .ok H ∧
    (H.handle i.command m).1.result = .ok ()
  one_iff : r.exitCode = 1 ↔ (∃ e, handler launch m i.options = .error e) ∨
    ∃ H e, handler launch m i.options = .ok H ∧ (H.handle i.command m).1.result = .error e
  output_eq : ∀ H, handler launch m i.options = .ok H → r.output = (H.handle i.command m).1.output

/-- The exit code is zero just if nothing failed. -/
theorem exitCode_conclude_eq_zero_iff (o : Outcome) :
    (conclude o).exitCode = 0 ↔ o.result = .ok () := by
  obtain ⟨output, _ | _⟩ := o
  · exact iff_of_false nofun nofun
  · exact iff_of_true rfl rfl

theorem exitCode_conclude_eq_one_iff (o : Outcome) :
    (conclude o).exitCode = 1 ↔ ∃ e, o.result = .error e := by
  obtain ⟨output, e | _⟩ := o
  · exact iff_of_true rfl ⟨e, rfl⟩
  · exact iff_of_false nofun fun ⟨_, h⟩ => nomatch h

/-- A failure adds nothing to the output. -/
theorem output_conclude (o : Outcome) : (conclude o).output = o.output := by
  obtain ⟨output, _ | _⟩ := o <;> rfl

/-- A program with a handler ends as the command does. -/
theorem run_of_handler {launch : Launcher} {arguments : List String} {m : Machine}
    {i : Invocation} (hparse : CommandLine.parse arguments = .ok i) {H : Handler Machine}
    (hH : handler launch m i.options = .ok H) :
    (run launch arguments m).1 = conclude (H.handle i.command m).1 := by
  have hinvoke : invoke launch i m
      = (.ok (H.handle i.command m).1, (H.handle i.command m).2) := by
    have hget : (get : StateM Machine Machine) m = (m, m) := rfl
    unfold invoke
    rw [Action.state_bind_of_eq hget, hH]
    rfl
  unfold run
  simp only [hparse]
  rw [Action.state_bind_of_eq hinvoke]
  rfl

/-- Without a handler nothing is carried out, and the program fails with what was missing. -/
theorem run_of_no_handler {launch : Launcher} {arguments : List String} {m : Machine}
    {i : Invocation} (hparse : CommandLine.parse arguments = .ok i) {e : Failure}
    (he : handler launch m i.options = .error e) :
    (run launch arguments m).1 = conclude { output := "", result := .error e } := by
  have hinvoke : invoke launch i m = (.error e, m) := by
    have hget : (get : StateM Machine Machine) m = (m, m) := rfl
    unfold invoke
    rw [Action.state_bind_of_eq hget, he]
    rfl
  unfold run
  simp only [hparse]
  rw [Action.state_bind_of_eq hinvoke]
  rfl

/-- Every run of a parsed command line ends so. -/
theorem ends_run {launch : Launcher} {arguments : List String} {i : Invocation}
    (hparse : CommandLine.parse arguments = .ok i) (m : Machine) :
    Ends launch m i (run launch arguments m).1 := by
  cases hhandler : handler launch m i.options with
  | error e =>
    rw [run_of_no_handler hparse hhandler]
    refine ⟨iff_of_false nofun ?_, iff_of_true rfl (Or.inl ⟨e, hhandler⟩), ?_⟩
    · rintro ⟨H, hH, -⟩
      rw [hhandler] at hH
      cases hH
    · intro H hH
      rw [hhandler] at hH
      cases hH
  | ok H =>
    -- `Ends` speaks of every handler that is made, and there is this one
    have hunique : ∀ H', handler launch m i.options = .ok H' → H' = H := by
      intro H' hH'
      rw [hhandler] at hH'
      exact (Except.ok.inj hH').symm
    rw [run_of_handler hparse hhandler]
    refine ⟨?_, ?_, ?_⟩
    · rw [exitCode_conclude_eq_zero_iff]
      constructor
      · intro h
        exact ⟨H, hhandler, h⟩
      · rintro ⟨H', hH', h⟩
        rwa [hunique H' hH'] at h
    · rw [exitCode_conclude_eq_one_iff]
      constructor
      · rintro ⟨e, he⟩
        exact Or.inr ⟨H, e, hhandler, he⟩
      · rintro (⟨e, he⟩ | ⟨H', e, hH', he⟩)
        · rw [hhandler] at he
          cases he
        · rw [hunique H' hH'] at he
          exact ⟨e, he⟩
    · intro H' hH'
      rw [hunique H' hH', output_conclude]

end Program

/-- Whatever the probe answers, a validation that fails before it has its verdicts has printed nothing and
fails with that failure; otherwise its outcome tells the verdicts. The program exits with 0 just if the
handler is made and the command succeeds, and with 1 just if one of the two fails. -/
theorem verdict_told_alike :
    (∀ {σ : Type} (H : Handler σ) (choices : List CommandLine.PolicyChoice)
      (remoteCache json : Bool) (s : σ),
      (∃ e t, H.validate choices remoteCache s = (.error e, t) ∧
        H.handle (.validate choices remoteCache json) s
          = ({ output := "", result := .error e }, t)) ∨
      (∃ verdicts t o, H.validate choices remoteCache s = (.ok verdicts, t) ∧
        H.handle (.validate choices remoteCache json) s = (o, t) ∧
        Handler.Tells verdicts json o)) ∧
    (∀ (launch : Launcher) (arguments : List String) (i : CommandLine.Invocation) (m : Machine),
      CommandLine.parse arguments = .ok i →
        Program.Ends launch m i (Program.run launch arguments m).1) := by
  refine ⟨?_, fun launch arguments i m hparse => Program.ends_run hparse m⟩
  intro σ H choices remoteCache json s
  rcases hrun : H.validate choices remoteCache s with ⟨e | verdicts, t⟩
  · exact Or.inl ⟨e, t, rfl, Handler.handle_validate_of_error hrun json⟩
  · exact Or.inr ⟨verdicts, t, _, rfl, Handler.handle_validate_of_ok hrun json,
      Handler.tells_concluded verdicts json⟩

/-- An installation that may run the build but not compile, told in JSON; and a machine on which no
configuration is found, since the user has no home. -/
theorem verdict_told_alike_java8 :
    let m : Machine :=
      { files := .empty, workingDirectory := [], environment := [], accountHome := none }
    let p : Probed := { version := ⟨"8", 8, none, none⟩, vendor := "OpenJDK", isJdk := true }
    let H : Handler Unit := {
      host := { machine := fun _ => m, probe := fun _ => return p }
      config := {}, source := [], javaHome := some ⟨"/jdk"⟩ }
    let message := Rule.compilationMessage {} p.label ⟨"/jdk"⟩
    (∃ o t, H.handle (.validate [] false true) () = (o, t) ∧
      o.result = .error (.violated [message]) ∧
      (Json.parse? o.output).bind Report.readFindings? = some {
        success := false
        policies := [("all-builds", []), ("compilation", [("compilation", message)])] }) ∧
    (Program.run .scripts ["validate"] m).1.exitCode = 1 := by
  intro m p H message
  have hverdicts : (H.validate [] false ()).1 = .ok [
      { policy := .allBuilds, violations := [] },
      { policy := .compilation, violations := [⟨.compilation, message⟩] }] := by
    decide +kernel
  refine ⟨?_, ?_⟩
  · rcases verdict_told_alike.1 H [] false true () with
      ⟨e, t, hrun, -⟩ | ⟨verdicts, t, o, hrun, ho, htells⟩
    · rw [hrun] at hverdicts
      cases hverdicts
    · rw [hrun] at hverdicts
      obtain rfl := Except.ok.inj hverdicts
      have hfails : o.result ≠ .ok () := by
        rw [Ne, htells.succeeds_iff]
        decide
      obtain ⟨messages, hresult, rfl, -⟩ := htells.fails hfails
      obtain ⟨success, hread, hsuccess⟩ := htells.printed_json rfl
      obtain rfl : success = false := by simpa [hfails] using hsuccess
      exact ⟨o, t, ho, hresult, hread⟩
  · have hparse : CommandLine.parse ["validate"]
        = .ok { options := {}, command := .validate [] false false } := by decide +kernel
    exact (verdict_told_alike.2 .scripts ["validate"] _ m hparse).one_iff.mpr
      (Or.inl ⟨.noUserHome, rfl⟩)

end BuildJdk
