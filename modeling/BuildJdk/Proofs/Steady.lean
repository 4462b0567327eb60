import BuildJdk.Proofs.Memory

/-!
# Probes that always answer the same

If the answers of the probe depend on the home only, then what is remembered of a label is what the probe
would answer now. So it makes no difference to an answer what was asked before: `Faithful` says how the
memory of the labels goes with the answers, and every question keeps it.

Main statement: while nothing changes on the machine, each request of a run is answered as on a set that
was just resolved.
-/

namespace BuildJdk

variable {σ α : Type}

namespace Host

/-- The answers of the probe depend on the home only. -/
def AnswersBy (h : Host σ) (answer : Path → Except Failure Probed) : Prop :=
  ∀ home s, (h.probe home s).1 = answer home

/-- The probe leaves the machine as it is. -/
def KeepsMachine (h : Host σ) : Prop := ∀ home s, h.machine (h.probe home s).2 = h.machine s

/-- In the states of `P` the answers of the probe depend on the home only, and it keeps to them. -/
def AnswersWithin (h : Host σ) (P : σ → Prop) (answer : Path → Except Failure Probed) : Prop :=
  ∀ home s, P s → (h.probe home s).1 = answer home ∧ P (h.probe home s).2

theorem AnswersBy.within {h : Host σ} {answer : Path → Except Failure Probed}
    (hprobe : h.AnswersBy answer) : h.AnswersWithin (fun _ => True) answer :=
  fun home s _ => ⟨hprobe home s, trivial⟩

theorem AnswersBy.withinMachine {h : Host σ} {answer : Path → Except Failure Probed}
    (hprobe : h.AnswersBy answer) (hmachine : h.KeepsMachine) (m : Machine) :
    h.AnswersWithin (h.machine · = m) answer :=
  fun home s hs => ⟨hprobe home s, (hmachine home s).trans hs⟩

/-- The state after calls of the probe. -/
def after (h : Host σ) (homes : List Path) (s : σ) : σ :=
  homes.foldl (fun s home => (h.probe home s).2) s

section

variable {h : Host σ} {P : σ → Prop} {answer : Path → Except Failure Probed} {s : σ}
  (hprobe : h.AnswersWithin P answer) (hs : P s)

include hprobe hs

/-- A call gives the answer for its home, and the state after it. -/
theorem AnswersWithin.probe_eq (home : Path) : h.probe home s = (answer home, h.after [home] s) :=
  Prod.ext (hprobe home s hs).1 rfl

/-- No call leaves the states in which the answers are known. -/
theorem AnswersWithin.after (homes : List Path) : P (h.after homes s) := by
  induction homes generalizing s with
  | nil => exact hs
  | cons home rest ih => exact ih (hprobe home s hs).2

/-- A call that was made had the answer for its home. -/
theorem AnswersWithin.of_probe {home : Path} {a : Except Failure Probed} {t : σ}
    (hcall : h.probe home s = (a, t)) : a = answer home ∧ t = h.after [home] s :=
  Prod.mk.inj (hcall.symm.trans (hprobe.probe_eq hs home))

end

/-- In the states of `P` the probe answers by the home, and an absolute home is as good for it as the given
one. -/
structure Settled (h : Host σ) (P : σ → Prop) (answer : Path → Except Failure Probed) : Prop where
  within : h.AnswersWithin P answer
  absolute : ∀ s home p, P s → answer home = .ok p → answer ((h.machine s).absolute home) = .ok p

/-- A host whose probe always answers the same. Its state is the number of calls so far. -/
def counting (m : Machine) (answer : Path → Except Failure Probed) : Host Nat where
  machine _ := m
  probe home := fun calls => (answer home, calls + 1)

theorem counting_answersBy (m : Machine) (answer : Path → Except Failure Probed) :
    (counting m answer).AnswersBy answer := fun _ _ => rfl

/-- A probe that looks its answers up in a table of absolute homes is settled. -/
theorem counting_settled_of_lookup {β : Type} (m : Machine) (table : List (String × β))
    {answer : Path → Except Failure Probed}
    (habsolute : ∀ entry ∈ table, m.absolute ⟨entry.1⟩ = ⟨entry.1⟩)
    (htable : ∀ home p, answer home = .ok p → ∃ found, table.lookup home.text = some found) :
    (counting m answer).Settled (fun _ => True) answer := by
  refine ⟨(counting_answersBy m answer).within, fun s home p _ hanswer => ?_⟩
  show answer (m.absolute home) = .ok p
  obtain ⟨found, hfound⟩ := htable home p hanswer
  obtain ⟨before, after, rfl, -⟩ := List.lookup_eq_some_iff.mp hfound
  rw [habsolute (home.text, found) (by simp), hanswer]

theorem counting_keepsMachine (m : Machine) (answer : Path → Except Failure Probed) :
    (counting m answer).KeepsMachine := fun _ _ => rfl

end Host

open BuildJdk.Action (Answers)

variable {h : Host σ} {P : σ → Prop} {answer : Path → Except Failure Probed} {m : Machine}

namespace Resolved

/-! ## Resolving once more

The course of a resolution is the same from every state of the same machine.
-/

section

variable (hprobe : h.AnswersBy answer) (hmachine : h.KeepsMachine) {s s' t : σ}
  (ht : h.machine t = h.machine s)

include hprobe hmachine ht

/-- On the same machine the same call is answered alike. -/
theorem probe_transport {home : Path} {a : Except Failure Probed}
    (hcall : h.probe home s = (a, s')) :
    ∃ t', h.probe home t = (a, t') ∧ h.machine t' = h.machine s' := by
  have hanswer : (h.probe home t).1 = a := by
    rw [hprobe home t, ← hprobe home s, hcall]
  have hkept : h.machine (h.probe home t).2 = h.machine s' := by
    rw [hmachine home t, ht, ← hmachine home s, hcall]
  exact ⟨_, Prod.ext hanswer rfl, hkept⟩

theorem Turn.transport {home? : Option Path} {calls : List Call} {own : Option Installation}
    (hturn : Turn h home? s calls own s') :
    ∃ t', Turn h home? t calls own t' ∧ h.machine t' = h.machine s' := by
  cases hturn with
  | skipped => exact ⟨t, .skipped t, ht⟩
  | taken hcall =>
    obtain ⟨t', hcall', ht'⟩ := probe_transport hprobe hmachine ht hcall
    refine ⟨t', ?_, ht'⟩
    rw [← ht']
    exact .taken hcall'

/-- On the same machine a resolution follows the same course. -/
theorem Course.transport {q : Requirements} {cache : Bool} {home : Path}
    {lookup : Property.Lookup} {calls : List Call} {result : Except Failure Resolved}
    (hc : Course h q cache home lookup s calls result s') :
    ∃ t', Course h q cache home lookup t calls result t' ∧ h.machine t' = h.machine s' := by
  -- what is looked up is looked up on the same machine, so the same calls are made
  cases hc with
  | currentFails hcall =>
    obtain ⟨t', hcall', ht'⟩ := probe_transport hprobe hmachine ht hcall
    exact ⟨t', .currentFails hcall', ht'⟩
  | testFails hcall hn htest =>
    obtain ⟨t₁, hcall', ht₁⟩ := probe_transport hprobe hmachine ht hcall
    obtain ⟨t', htest', ht'⟩ := probe_transport hprobe hmachine ht₁ htest
    rw [← ht₁] at hn
    exact ⟨t', .testFails hcall' hn htest', ht'⟩
  | compilationFails hcall hturn hn hk =>
    obtain ⟨t₁, hcall', ht₁⟩ := probe_transport hprobe hmachine ht hcall
    obtain ⟨t₂, hturn', ht₂⟩ := hturn.transport hprobe hmachine ht₁
    obtain ⟨t', hk', ht'⟩ := probe_transport hprobe hmachine ht₂ hk
    rw [← ht₁] at hturn'
    rw [← ht₂] at hn
    exact ⟨t', .compilationFails hcall' hturn' hn hk', ht'⟩
  | done hcall hturn hk =>
    obtain ⟨t₁, hcall', ht₁⟩ := probe_transport hprobe hmachine ht hcall
    obtain ⟨t₂, hturn', ht₂⟩ := hturn.transport hprobe hmachine ht₁
    obtain ⟨t', hk', ht'⟩ := hk.transport hprobe hmachine ht₂
    rw [← ht₁] at hturn'
    rw [← ht₂] at hk'
    refine ⟨t', ?_, ht'⟩
    rw [← ht₁]
    exact .done hcall' hturn' hk'

end

/-! ## Labels -/

/-- The remembered labels are those that the probe would answer now. -/
structure Faithful (answer : Path → Except Failure Probed) (r₀ : Resolved) (x : σ × Resolved) :
    Prop where
  bare_eq : x.2.bare = r₀.bare
  label_eq : ∀ role label, (x.2.installation role).knownLabel = some label →
    (answer (r₀.installation role).home).map (·.label) = .ok label

variable {r₀ r : Resolved} {s : σ}

/-- What is learnt from the probe is faithful to it. -/
theorem Faithful.learn (hx : Faithful answer r₀ (s, r)) (role : Role) (s' : σ) :
    Faithful answer r₀ (s', r.learn role (answer (r₀.installation role).home)) where
  bare_eq := (bare_learn _ _ _).trans hx.bare_eq
  label_eq other label hlabel := by
    by_cases howner : r.owner role = r.owner other
    · -- all roles of the owner have the same home, so the answer is about each of them
      have hhome : (r₀.installation other).home = (r₀.installation role).home := by
        rw [← home_eq_of_bare_eq hx.bare_eq, ← home_eq_of_bare_eq hx.bare_eq,
          installation_eq_of_owner_eq howner]
      rw [hhome]
      cases hanswer : answer (r₀.installation role).home with
      | error e =>
        rw [hanswer] at hlabel
        have hknown := hx.label_eq other label hlabel
        rw [hhome, hanswer] at hknown
        exact hknown
      | ok p =>
        rw [hanswer, knownLabel_learn_ok howner] at hlabel
        exact congrArg Except.ok (Option.some.inj hlabel)
    · rw [installation_learn_of_ne howner] at hlabel
      exact hx.label_eq other label hlabel

/-- The answer is the same whether the label is remembered or the probe is asked for it. -/
theorem Faithful.ask_label (hprobe : h.AnswersWithin P answer) {x : σ × Resolved}
    (hx : Faithful answer r₀ x) (hP : P x.1) (role : Role) :
    (ask role (Installation.label h) x).1 = (answer (r₀.installation role).home).map (·.label) ∧
      Faithful answer r₀ (ask role (Installation.label h) x).2 ∧
      P (ask role (Installation.label h) x).2.1 := by
  obtain ⟨s, r⟩ := x
  cases hknown : (r.installation role).knownLabel with
  | some label =>
    rw [ask_label_known hknown, hx.label_eq role label hknown]
    exact ⟨rfl, hx, hP⟩
  | none =>
    obtain ⟨hanswer, hP'⟩ := hprobe (r.installation role).home s hP
    rw [ask_label_unknown hknown (Prod.ext hanswer rfl), home_eq_of_bare_eq hx.bare_eq]
    exact ⟨rfl, hx.learn role _, home_eq_of_bare_eq hx.bare_eq role ▸ hP'⟩

/-- The remembered labels are those that the probe would answer, and the state around is one of `P`. -/
structure Kept (answer : Path → Except Failure Probed) (P : σ → Prop) (r₀ : Resolved)
    (x : σ × Resolved) : Prop where
  faithful : Faithful answer r₀ x
  state : P x.1

/-- A label is told as the probe tells it, from memory or not. -/
theorem answers_label (hprobe : h.AnswersWithin P answer) (r₀ : Resolved) (role : Role) :
    Answers (Kept answer P r₀) (ask role (Installation.label h))
      ((answer (r₀.installation role).home).map (·.label)) := by
  rintro x ⟨hf, hP⟩
  obtain ⟨hanswer, hf', hP'⟩ := hf.ask_label hprobe hP role
  exact ⟨hanswer, hf', hP'⟩

/-! ## Libraries -/

/-- The machine is as it was, and the remembered libraries are those in its files. -/
structure Undisturbed (h : Host σ) (m : Machine) (r₀ : Resolved) (x : σ × Resolved) : Prop where
  machine_eq : h.machine x.1 = m
  jar_eq : ∀ role jar, (x.2.installation role).knownToolsJar = some jar →
    jar = Home.toolsJar? m (r₀.installation role).home

theorem knownToolsJar_learn (r : Resolved) (role other : Role) (a : Except Failure Probed) :
    ((r.learn role a).installation other).knownToolsJar
      = (r.installation other).knownToolsJar := by
  cases a with
  | error e => rfl
  | ok p =>
    have hkept : ((r.installation role).withLabel p.label).knownToolsJar
        = (r.installation role).knownToolsJar := rfl
    exact field_withInstallation (·.knownToolsJar) hkept other

/-- A request for a label keeps the libraries undisturbed. -/
theorem Undisturbed.label (hprobe : h.AnswersWithin (h.machine · = m) answer) {x : σ × Resolved}
    (hx : Undisturbed h m r₀ x) (role : Role) :
    Undisturbed h m r₀ (ask role (Installation.label h) x).2 := by
  obtain ⟨s, r⟩ := x
  cases hknown : (r.installation role).knownLabel with
  | some label =>
    rw [ask_label_known hknown]
    exact hx
  | none =>
    rcases hcall : h.probe (r.installation role).home s with ⟨a, s'⟩
    rw [ask_label_unknown hknown hcall]
    have hkept := (hprobe (r.installation role).home s hx.machine_eq).2
    rw [hcall] at hkept
    refine ⟨hkept, fun other jar hjar => hx.jar_eq other jar ?_⟩
    rw [← hjar]
    exact (knownToolsJar_learn r role other a).symm

/-- An undisturbed library is the one that is in the files. -/
theorem Undisturbed.jarAt_eq (hbare : r.bare = r₀.bare) (hx : Undisturbed h m r₀ (s, r))
    (role : Role) :
    jarAt h s (r.installation role) = Home.toolsJar? m (r₀.installation role).home := by
  unfold jarAt
  cases hknown : (r.installation role).knownToolsJar with
  | some jar => exact hx.jar_eq role jar hknown
  | none =>
    rw [show h.machine s = m from hx.machine_eq, home_eq_of_bare_eq hbare]
    rfl

theorem Undisturbed.withToolsJar (hbare : r.bare = r₀.bare) (hx : Undisturbed h m r₀ (s, r))
    (role : Role) :
    Undisturbed h m r₀ (s, r.withInstallation role ((r.installation role).withToolsJar
      (Home.toolsJar? m (r₀.installation role).home))) where
  machine_eq := hx.machine_eq
  jar_eq other jar hjar := by
    rw [installation_withInstallation] at hjar
    by_cases howner : r.owner role = r.owner other
    · rw [if_pos howner] at hjar
      rw [← home_eq_of_bare_eq hbare, ← installation_eq_of_owner_eq howner,
        home_eq_of_bare_eq hbare]
      exact (Option.some.inj hjar).symm
    · rw [if_neg howner] at hjar
      exact hx.jar_eq other jar hjar

theorem Faithful.withToolsJar (hx : Faithful answer r₀ (s, r)) (role : Role)
    (jar : Option Path) :
    Faithful answer r₀ (s, r.withInstallation role ((r.installation role).withToolsJar jar)) where
  bare_eq := (bare_withInstallation (Installation.bare_withToolsJar _ jar)).trans hx.bare_eq
  label_eq other label hlabel := by
    rw [knownLabel_withToolsJar] at hlabel
    exact hx.label_eq other label hlabel

/-- What is remembered on the way goes with the answers, whatever is asked. -/
theorem Kept.enquired (hprobe : h.AnswersWithin P answer) {x y : σ × Resolved} {es : List Enquiry}
    (hx : Kept answer P r₀ x) (he : Enquired h x es y) : Kept answer P r₀ y := by
  induction he with
  | done => exact hx
  | @asks s s' r role _ _ _ _ hcall _ ih =>
    obtain ⟨rfl, rfl⟩ := hprobe.of_probe hx.state hcall
    refine ih ⟨?_, hprobe.after hx.state _⟩
    rw [home_eq_of_bare_eq hx.faithful.bare_eq]
    exact hx.faithful.learn role _
  | looks role jar _ ih => exact ih ⟨hx.faithful.withToolsJar role jar, hx.state⟩

/-! ## Questions -/

/-- All that is remembered is as the probe and the machine would tell it now. -/
def Steady (h : Host σ) (answer : Path → Except Failure Probed) (m : Machine) (r₀ : Resolved)
    (x : σ × Resolved) : Prop :=
  Faithful answer r₀ x ∧ Undisturbed h m r₀ x

theorem answers_label_of_steady (hprobe : h.AnswersWithin (h.machine · = m) answer) (r₀ : Resolved)
    (role : Role) : Answers (Steady h answer m r₀) (ask role (Installation.label h))
      ((answer (r₀.installation role).home).map (·.label)) := by
  rintro x ⟨hf, hu⟩
  obtain ⟨hanswer, hf', -⟩ := hf.ask_label hprobe hu.machine_eq role
  exact ⟨hanswer, hf', hu.label hprobe role⟩

/-- A library is told as it is in the files, from memory or not. -/
theorem answers_toolsJar (h : Host σ) (answer : Path → Except Failure Probed) (m : Machine)
    (r₀ : Resolved) (role : Role) :
    Answers (Steady h answer m r₀) (ask role (Installation.toolsJar h))
      (.ok (Home.toolsJar? m (r₀.installation role).home)) := by
  rintro ⟨s, r⟩ ⟨hf, hu⟩
  rw [ask_toolsJar, hu.jarAt_eq hf.bare_eq]
  exact ⟨rfl, hf.withToolsJar role _, hu.withToolsJar hf.bare_eq role⟩

/-- A plain question has the same answer in all states that go with one of them. -/
theorem Plain.answers (hprobe : h.AnswersWithin (h.machine · = m) answer) {x₀ : σ × Resolved}
    (hx₀ : Steady h answer m r₀ x₀) {q : Question σ α} (hq : Plain h q) :
    ∃ a, Answers (Steady h answer m r₀) q a := by
  induction hq with
  | done a => exact ⟨.ok a, .pure a⟩
  | fail e => exact ⟨.error e, .throw e⟩
  | label role => exact ⟨_, answers_label_of_steady hprobe r₀ role⟩
  | toolsJar role => exact ⟨_, answers_toolsJar h answer m r₀ role⟩
  | @andThen _ _ q k _ _ ihq ihk =>
    obtain ⟨e | a, ha⟩ := ihq
    · exact ⟨.error e, ha.bind_error k⟩
    · obtain ⟨b, hb⟩ := ihk a
      exact ⟨b, ha.bind_ok hb⟩
  | look hview _ ih =>
    -- what is looked at never changes, so the one state tells what all of them do
    obtain ⟨a, ha⟩ := ih x₀
    refine ⟨a, .get fun y hy => ?_⟩
    rw [hview x₀ y (hy.1.bare_eq.trans hx₀.1.bare_eq.symm)]
    exact ha
  | attempt _ ih =>
    obtain ⟨a, ha⟩ := ih
    exact ⟨.ok a, ha.attempt⟩

/-- Nothing is remembered yet of a set that was just resolved. -/
theorem Course.steady {q : Requirements} {cache : Bool} {home : Path} {lookup : Property.Lookup}
    {s t : σ} {calls : List Call} (hc : Course h q cache home lookup s calls (.ok r) t) (u : σ) :
    Steady h answer (h.machine u) r (u, r) := by
  refine ⟨⟨rfl, fun role label hlabel => ?_⟩, ⟨rfl, fun role jar hjar => ?_⟩⟩
  · obtain ⟨_, _, _, hnew⟩ := hc.installation_new role
    rw [hnew] at hlabel
    exact absurd hlabel (Option.some_ne_none label).symm
  · obtain ⟨_, _, _, hnew⟩ := hc.installation_new role
    rw [hnew] at hjar
    exact absurd hjar (Option.some_ne_none jar).symm

end Resolved

namespace Request

open Resolved (Kept Steady resolveBy)

/-- A run keeps the memory faithful. -/
theorem kept_run (hprobe : h.AnswersWithin P answer) {r₀ : Resolved} {x : σ × Resolved}
    (hx : Kept answer P r₀ x) (requests : List Request) :
    Kept answer P r₀ (run h requests x).2 := by
  obtain ⟨es, he⟩ := enquired_run h requests x
  exact hx.enquired hprobe he

theorem steady_ask (hprobe : h.AnswersWithin (h.machine · = m) answer) {r₀ : Resolved}
    {x : σ × Resolved} (hx : Steady h answer m r₀ x) (request : Request) :
    Steady h answer m r₀ (request.ask h x).2 := by
  by_cases hr : ∃ role, request = .describe role
  · obtain ⟨role, rfl⟩ := hr
    exact hx
  · obtain ⟨a, ha⟩ := (plain_ask h fun role heq => hr ⟨role, heq⟩).answers hprobe hx
    exact (ha x hx).2

/-- A run keeps the memory faithful and the machine as it is. -/
theorem steady_run (hprobe : h.AnswersWithin (h.machine · = m) answer) {r₀ : Resolved}
    {x : σ × Resolved} (hx : Steady h answer m r₀ x) (requests : List Request) :
    Steady h answer m r₀ (run h requests x).2 := by
  induction requests generalizing x with
  | nil => exact hx
  | cons request rest ih => exact ih (steady_ask hprobe hx request)

/-- Each request of a run is answered as if it were the first one in another steady state. -/
theorem run_answers (hprobe : h.AnswersBy answer) (hmachine : h.KeepsMachine) {r₀ : Resolved}
    {x y : σ × Resolved} (hx : Steady h answer m r₀ x) (hy : Steady h answer m r₀ y)
    (requests : List Request) (hr : ∀ request ∈ requests, ∀ role, request ≠ .describe role) :
    (run h requests x).1 = requests.map fun request => (request.ask h y).1 := by
  induction requests generalizing x with
  | nil => rfl
  | cons request rest ih =>
    obtain ⟨a, ha⟩ := (plain_ask h (hr request List.mem_cons_self)).answers
      (hprobe.withinMachine hmachine m) hy
    obtain ⟨hreply, hx'⟩ := ha x hx
    have hrest := ih hx' fun other hmem => hr other (List.mem_cons_of_mem _ hmem)
    show (request.ask h x).1 :: (run h rest (request.ask h x).2).1 = _
    rw [hrest, hreply, ← (ha y hy).1]
    rfl

/-- While nothing changes on the machine and the probe answers by the home only, resolving once more gives
a copy of the set, and each request of a run, whatever came before it, is answered as if it were the first
one that is put to the copy. -/
theorem run_eq_map_fresh {h : Host σ} {answer : Path → Except Failure Probed}
    (hprobe : h.AnswersBy answer) (hmachine : h.KeepsMachine) {q : Requirements} {cache : Bool}
    {home : Path} {lookup : Property.Lookup} {s₀ s₁ t₀ : σ} {r : Resolved}
    (hres : resolveBy h q cache home lookup s₀ = (.ok r, s₁))
    (ht₀ : h.machine t₀ = h.machine s₀) :
    ∃ t₁, resolveBy h q cache home lookup t₀ = (.ok r, t₁) ∧
      ∀ requests : List Request, (∀ request ∈ requests, ∀ role, request ≠ .describe role) →
        (run h requests (s₁, r)).1 = requests.map fun request => (request.ask h (t₁, r)).1 := by
  obtain ⟨calls, hc⟩ := Resolved.Course.of_resolveBy hres
  obtain ⟨t₁, hc', ht₁⟩ := hc.transport hprobe hmachine ht₀
  refine ⟨t₁, hc'.resolveBy_eq, ?_⟩
  have hx : Steady h answer (h.machine s₁) r (s₁, r) := hc.steady s₁
  have hy : Steady h answer (h.machine s₁) r (t₁, r) := ht₁ ▸ hc'.steady t₁
  exact run_answers hprobe hmachine hx hy

/-- A label that the probe tells by the given home only: asking the absolute home fails, each time. -/
theorem run_eq_map_fresh_relative :
    let m : Machine :=
      { files := .empty, workingDirectory := ["w"], environment := [], accountHome := none }
    let p : Probed := { version := ⟨"8", 8, none, none⟩, vendor := "OpenJDK", isJdk := true }
    let answer : Path → Except Failure Probed := fun home =>
      if home = ⟨"jdk"⟩ then .ok p else .error (.probe home (.other "nothing there"))
    let h := Host.counting m answer
    ∃ r t₁, resolveBy h {} false ⟨"jdk"⟩ (fun _ _ => none) 5 = (.ok r, t₁) ∧
      (run h [.check .allBuilds, .validate .compilation, .label .test] (1, r)).1
        = [.check .allBuilds, .validate .compilation, .label .test].map
          fun request => (Request.ask h request (t₁, r)).1 := by
  intro m p answer h
  have hres : resolveBy h {} false ⟨"jdk"⟩ (fun _ _ => none) 0 = (.ok {
      current := .new m true ⟨"jdk"⟩ p.version
      ownTest := none, ownCompilation := none, requirements := {}, remoteCache := false }, 1) := rfl
  obtain ⟨t₁, hfresh, hrun⟩ := run_eq_map_fresh (Host.counting_answersBy m answer)
    (Host.counting_keepsMachine m answer) hres (show h.machine 5 = h.machine 0 from rfl)
  exact ⟨_, t₁, hfresh, hrun _ (by simp)⟩

end Request

end BuildJdk
