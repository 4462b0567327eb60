import BuildJdk.Probe.Basic

/-!
# Running actions

How an action runs in a state, for each of the parts that actions are put together from.

`Action.Answers` says of all runs at once which answer an action gives in the states of some kind, and
that it keeps to them; `Action.Yields` says of what kind its answers are, if it does not fail. Both are put
together part by part too.
-/

namespace BuildJdk.Action

variable {S α β : Type}

/-! ## Runs -/

theorem run_pure (a : α) (s : S) : (pure a : Action S α) s = (.ok a, s) := rfl

theorem run_get (s : S) : (get : Action S S) s = (.ok s, s) := rfl

theorem run_except (x : Except Failure α) (s : S) : (liftM x : Action S α) s = (x, s) := by
  cases x <;> rfl

theorem run_state (x : StateM S α) (s : S) :
    (liftM x : Action S α) s = (.ok (x s).1, (x s).2) := rfl

/-- The second part of an action is run on what the first one gives, and not at all after a failure. -/
theorem run_bind (x : Action S α) (k : α → Action S β) (s : S) :
    (x >>= k) s = match x s with
      | (.ok a, s') => k a s'
      | (.error e, s') => (.error e, s') := by
  show (match x s with | (answer, s') => ExceptT.bindCont k answer s') = _
  rcases x s with ⟨a | e, s'⟩ <;> rfl

theorem run_bind_ok {x : Action S α} {s s' : S} {a : α} (h : x s = (.ok a, s'))
    (k : α → Action S β) : (x >>= k) s = k a s' := by
  rw [run_bind, h]

theorem run_bind_error {x : Action S α} {s s' : S} {e : Failure} (h : x s = (.error e, s'))
    (k : α → Action S β) : (x >>= k) s = (.error e, s') := by
  rw [run_bind, h]

/-- What cannot fail goes on from where its first part left the state. -/
theorem state_bind_of_eq {x : StateM S α} {s s' : S} {a : α} (h : x s = (a, s'))
    (k : α → StateM S β) : (x >>= k) s = k a s' := by
  show (match x s with | (a, s') => k a s') = _
  rw [h]

/-- Runs an action, and answers with its result even if that is a failure. -/
def attempt (x : Action S α) : Action S (Except Failure α) := fun s => (.ok (x s).1, (x s).2)

/-! ## Steady answers -/

/-- In all states of `P` the action gives this answer, and it leaves a state of `P`. -/
def Answers (P : S → Prop) (q : Action S α) (a : Except Failure α) : Prop :=
  ∀ s, P s → (q s).1 = a ∧ P (q s).2

variable {P Q : S → Prop}

theorem Answers.pure (a : α) : Answers P (pure a) (.ok a) :=
  fun _ hs => ⟨rfl, hs⟩

theorem Answers.throw (e : Failure) : Answers P (throw e : Action S α) (.error e) :=
  fun _ hs => ⟨rfl, hs⟩

/-- After an answer the action goes on with it. -/
theorem Answers.bind_ok {x : Action S α} {k : α → Action S β} {a : α} {b : Except Failure β}
    (hx : Answers P x (.ok a)) (hk : Answers P (k a) b) : Answers P (x >>= k) b := by
  intro s hs
  obtain ⟨hanswer, hP⟩ := hx s hs
  rw [run_bind_ok (Prod.ext hanswer rfl)]
  exact hk _ hP

/-- Nothing comes after a failure. -/
theorem Answers.bind_error {x : Action S α} {e : Failure} (hx : Answers P x (.error e))
    (k : α → Action S β) : Answers P (x >>= k) (.error e) := by
  intro s hs
  obtain ⟨hanswer, hP⟩ := hx s hs
  rw [run_bind_error (Prod.ext hanswer rfl)]
  exact ⟨rfl, hP⟩

/-- The answer of two parts is that of the second to the answer of the first. -/
theorem Answers.bind {x : Action S α} {k : α → Action S β} {a : Except Failure α}
    {b : α → Except Failure β} (hx : Answers P x a) (hk : ∀ v, Answers P (k v) (b v)) :
    Answers P (x >>= k) (a >>= b) := by
  cases a with
  | error e => exact hx.bind_error k
  | ok v => exact hx.bind_ok (hk v)

/-- What an action does after a look at the state may use what all states of `P` agree on. -/
theorem Answers.get {k : S → Action S α} {a : Except Failure α}
    (hk : ∀ s, P s → Answers P (k s) a) : Answers P (MonadState.get >>= k) a := by
  intro s hs
  rw [run_bind_ok (run_get s)]
  exact hk s hs s hs

/-- An attempt answers with the failure, and does not fail itself. -/
theorem Answers.attempt {x : Action S α} {a : Except Failure α} (hx : Answers P x a) :
    Answers P (attempt x) (.ok a) := by
  intro s hs
  obtain ⟨hanswer, hP⟩ := hx s hs
  exact ⟨congrArg Except.ok hanswer, hP⟩

/-- If each part is answered, so are all of them, one after the other. -/
theorem Answers.mapM {f : α → Action S β} {g : α → β} (hf : ∀ a, Answers P (f a) (.ok (g a)))
    (as : List α) : Answers P (as.mapM f) (.ok (as.map g)) := by
  induction as with
  | nil => exact .pure []
  | cons a as ih =>
    rw [List.mapM_cons]
    exact (hf a).bind_ok (ih.bind_ok (.pure _))

/-! ## Answers of a kind -/

/-- In the states of `P` the action answers with nothing but a member of `Q` if it does not fail, and in any
case it leaves a state of `P`. -/
def Yields (P : S → Prop) (q : Action S α) (Q : α → Prop) : Prop :=
  ∀ s, P s → (∀ a, (q s).1 = .ok a → Q a) ∧ P (q s).2

variable {K : α → Prop} {L : β → Prop}

theorem Yields.pure {a : α} (ha : K a) : Yields P (Pure.pure a) K := by
  refine fun s hs => ⟨?_, hs⟩
  rintro _ ⟨⟩
  exact ha

/-- What the second part gives is of a kind if it is so for everything of the kind that the first part gives. -/
theorem Yields.bind {x : Action S α} {k : α → Action S β} (hx : Yields P x K)
    (hk : ∀ a, K a → Yields P (k a) L) : Yields P (x >>= k) L := by
  intro s hs
  obtain ⟨hanswer, hP⟩ := hx s hs
  rcases hrun : x s with ⟨e | a, s'⟩
  · rw [run_bind_error hrun]
    rw [hrun] at hP
    exact ⟨nofun, hP⟩
  · rw [run_bind_ok hrun]
    rw [hrun] at hanswer hP
    exact hk a (hanswer a rfl) s' hP

/-- What an action does after a look at the state may use that the state is one of `P`. -/
theorem Yields.get {k : S → Action S α} (hk : ∀ s, P s → Yields P (k s) K) :
    Yields P (MonadState.get >>= k) K := by
  intro s hs
  rw [run_bind_ok (run_get s)]
  exact hk s hs s hs

end BuildJdk.Action
