import BuildJdk.Proofs.Action

/-!
# Calls of the probe

What passes between a program and the probe is a list of calls. Each call is made in the state that the
one before it left, so the answers may depend on all that was asked before. The log of a host is the list
of the homes in its calls.
-/

namespace BuildJdk

/-- A call of the probe: the home that it is asked about, and its answer. -/
structure Call where
  home : Path
  answer : Except Failure Probed

namespace Host

variable {σ : Type} {h : Host σ}

/-- Calls of the probe, one after the other, from a state to the one that the last of them leaves. -/
inductive Calls (h : Host σ) : σ → List Call → σ → Prop
  | nil (s : σ) : Calls h s [] s
  | cons {s s' t : σ} {c : Call} {cs : List Call} :
      h.probe c.home s = (c.answer, s') → Calls h s' cs t → Calls h s (c :: cs) t

/-! ## The log -/

@[simp] theorem logged_machine (s : σ) (log : List Path) : h.logged.machine (s, log) = h.machine s := rfl

theorem logged_probe (home : Path) (s : σ) (log : List Path) :
    h.logged.probe home (s, log)
      = ((h.probe home s).1, ((h.probe home s).2, log ++ [home])) := rfl

/-- A call of the logged probe is one of the probe, with its home put at the end of the log. -/
theorem logged_probe_eq {home : Path} {s t : σ} {answer : Except Failure Probed}
    (hcall : h.probe home s = (answer, t)) (log : List Path) :
    h.logged.probe home (s, log) = (answer, (t, log ++ [home])) := by
  rw [logged_probe, hcall]

/-- The log gets the homes in the calls, in order. -/
theorem Calls.of_logged {s : σ} {log : List Path} {cs : List Call} {y : σ × List Path}
    (hc : h.logged.Calls (s, log) cs y) :
    y.2 = log ++ cs.map (·.home) ∧ h.Calls s cs y.1 := by
  generalize hx : (s, log) = x at hc
  induction hc generalizing s log with
  | nil =>
    subst hx
    exact ⟨(List.append_nil log).symm, .nil s⟩
  | @cons _ _ _ c cs hcall _ ih =>
    subst hx
    obtain ⟨hanswer, rfl⟩ := Prod.ext_iff.mp hcall
    obtain ⟨hlog, hcalls⟩ := ih rfl
    refine ⟨?_, .cons (Prod.ext hanswer rfl) hcalls⟩
    rw [hlog, List.append_assoc]
    rfl

/-- The log of calls has their homes, in the order of the calls. -/
theorem Calls.logged {s t : σ} {cs : List Call} (hc : h.Calls s cs t) (log : List Path) :
    h.logged.Calls (s, log) cs (t, log ++ cs.map (·.home)) := by
  induction hc generalizing log with
  | nil s =>
    rw [List.map_nil, List.append_nil]
    exact .nil (s, log)
  | @cons _ _ _ c cs hcall _ ih =>
    rw [List.map_cons, List.append_cons]
    exact .cons (logged_probe_eq hcall log) (ih (log ++ [c.home]))

end Host

end BuildJdk
