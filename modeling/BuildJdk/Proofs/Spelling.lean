import BuildJdk.Proofs.Occurrence
import BuildJdk.Proofs.Trimming

/-!
# How command lines are spelled

A command line is spelled argument by argument: options with the values they take, the name of a command,
and more options. `Spells` says which lines of occurrences the arguments spell, without looking at what the
occurrences give.

Main statements: an argument that is spelled as an option is read as its occurrences, one after the other, and
every argument that is read is spelled so or is the value that is waited for.
-/

namespace BuildJdk.CommandLine

/-! ## Spelling -/

/-- Options put together after one dash: the letters, the occurrences, and the option that is left without
its value. -/
inductive Letters (level : Level) : List Char → List Occurrence → Option Switch → Prop
  | done : Letters level [] [] none
  | flag {c : Char} {s : Switch} {cs : List Char} {os : List Occurrence} {w : Option Switch} :
      Switch.ofShort? level c = some s → s.takesValue = false → Letters level cs os w →
      Letters level (c :: cs) (⟨s, none⟩ :: os) w
  /-- An equals sign in front of the value does not belong to it. -/
  | equals {c : Char} {s : Switch} {value : List Char} :
      Switch.ofShort? level c = some s → s.takesValue = true →
      Letters level (c :: '=' :: value) [⟨s, some (String.ofList value)⟩] none
  | attached {c d : Char} {s : Switch} {value : List Char} :
      Switch.ofShort? level c = some s → s.takesValue = true → d ≠ '=' →
      Letters level (c :: d :: value) [⟨s, some (String.ofList (d :: value))⟩] none
  | waiting {c : Char} {s : Switch} :
      Switch.ofShort? level c = some s → s.takesValue = true → Letters level [c] [] (some s)

/-- An argument that starts with a dash: its characters, its occurrences, and the option that is left
without its value. -/
inductive Dashed (level : Level) : List Char → List Occurrence → Option Switch → Prop
  | short {c : Char} {cs : List Char} {os : List Occurrence} {w : Option Switch} :
      c ≠ '-' → Letters level (c :: cs) os w → Dashed level ('-' :: c :: cs) os w
  | flag {name : List Char} {s : Switch} :
      '=' ∉ name → Switch.ofLong? level (String.ofList name) = some s → s.takesValue = false →
      Dashed level ('-' :: '-' :: name) [⟨s, none⟩] none
  | attached {name value : List Char} {s : Switch} :
      '=' ∉ name → Switch.ofLong? level (String.ofList name) = some s → s.takesValue = true →
      Dashed level ('-' :: '-' :: (name ++ '=' :: value)) [⟨s, some (String.ofList value)⟩] none
  | waiting {name : List Char} {s : Switch} :
      '=' ∉ name → Switch.ofLong? level (String.ofList name) = some s → s.takesValue = true →
      Dashed level ('-' :: '-' :: name) [] (some s)

/-- A text that does not look like an option. A dash alone does not. -/
def IsPlain (a : String) : Prop := ∀ c cs, a.toList ≠ '-' :: c :: cs

/-- Arguments at a level, after an option that is left without its value, if there is one. -/
inductive Spelled (level : Level) : Option Switch → List String → List Occurrence → Prop
  | done : Spelled level none [] []
  | option {a : String} {args : List String} {os os' : List Occurrence} {w : Option Switch} :
      Dashed level a.toList os w → Spelled level w args os' →
      Spelled level none (a :: args) (os ++ os')
  | value {a : String} {args : List String} {s : Switch} {os : List Occurrence} :
      IsPlain a → Spelled level none args os →
      Spelled level (some s) (a :: args) (⟨s, some a⟩ :: os)

/-- What the arguments of a command line say: a command, and the options in front of it and after it. -/
structure Line where
  before : List Occurrence
  command : Subcommand
  after : List Occurrence
  deriving Repr

/-- The arguments spell the line, after an option that is left without its value, if there is one. Two dashes
may close the line. -/
inductive Spells (w : Option Switch) : List String → Line → Prop
  | line {before after closing : List String} {name : String} {l : Line} :
      Spelled .top w before l.before → Subcommand.ofName? name = some l.command →
      Spelled (.after l.command) none after l.after → closing = [] ∨ closing = ["--"] →
      Spells w (before ++ name :: (after ++ closing)) l

/-- The line says the invocation: both levels are accepted, and put together. -/
def Line.Says (l : Line) (i : Invocation) : Prop :=
  ∃ before after, Given.acceptAll {} l.before = .ok before ∧
    Given.acceptAll {} l.after = .ok after ∧
    i = { options := mergeOptions before.options after.options
          command := commandOf l.command after }

/-! ## Words that are no options -/

/-- What letters leave waiting is a switch that takes a value. -/
theorem Letters.takesValue {level : Level} {cs : List Char} {os : List Occurrence}
    {w : Option Switch} (h : Letters level cs os w) : ∀ s, w = some s → s.takesValue = true := by
  induction h with
  | done => exact nofun
  | flag _ _ _ ih => exact ih
  | equals => exact nofun
  | attached => exact nofun
  | waiting _ hs =>
    rintro _ ⟨⟩
    exact hs

/-- Only options that take a value are left without it. -/
theorem Dashed.takesValue {level : Level} {a : List Char} {os : List Occurrence}
    {w : Option Switch} (h : Dashed level a os w) : ∀ s, w = some s → s.takesValue = true := by
  cases h with
  | short _ hletters => exact hletters.takesValue
  | flag => exact nofun
  | attached => exact nofun
  | waiting _ _ hs =>
    rintro _ ⟨⟩
    exact hs

/-- An option has something after its dash. -/
theorem Dashed.exists_cons {level : Level} {a : List Char} {os : List Occurrence}
    {w : Option Switch} (h : Dashed level a os w) : ∃ c cs, a = '-' :: c :: cs := by
  cases h <;> exact ⟨_, _, rfl⟩

/-- No option is a plain word. -/
theorem not_isPlain_of_dashed {level : Level} {a : String} {os : List Occurrence}
    {w : Option Switch} (h : Dashed level a.toList os w) : ¬ IsPlain a := by
  obtain ⟨c, cs, ha⟩ := h.exists_cons
  exact fun hplain => hplain c cs ha

theorem isPlain_of_ofName? {a : String} {command : Subcommand}
    (h : Subcommand.ofName? a = some command) : IsPlain a := by
  have hname : a = "resolve" ∨ a = "validate" ∨ a = "scan" := by
    unfold Subcommand.ofName? at h
    split at h
    · next hname => exact Or.inl hname
    · split at h
      · next hname => exact Or.inr (Or.inl hname)
      · split at h
        · next hname => exact Or.inr (Or.inr hname)
        · cases h
  intro c cs
  rcases hname with rfl | rfl | rfl <;> simp

theorem isPlain_help : IsPlain "help" := by
  intro c cs
  simp

/-- The argument that ends the options is no plain word. -/
theorem ne_dashes_of_isPlain {a : String} (h : IsPlain a) : a ≠ "--" := by
  rintro rfl
  exact h '-' [] rfl

theorem ofLong?_empty (level : Level) : Switch.ofLong? level "" = none := by
  rcases level with _ | (_ | _ | _) <;> decide

/-- Two dashes alone are no option. -/
theorem ne_dashes_of_dashed {level : Level} {a : String} {os : List Occurrence}
    {w : Option Switch} (h : Dashed level a.toList os w) : a ≠ "--" := by
  rintro rfl
  generalize hlist : ("--" : String).toList = cs at h
  have hcs : cs = ['-', '-'] := hlist.symm
  cases h with
  | short hc _ =>
    simp only [List.cons.injEq] at hcs
    exact hc hcs.2.1
  | flag _ hs _ =>
    simp only [List.cons.injEq, true_and] at hcs
    rw [hcs, String.ofList_nil, ofLong?_empty] at hs
    cases hs
  | attached _ _ _ => simp at hcs
  | waiting _ hs _ =>
    simp only [List.cons.injEq, true_and] at hcs
    rw [hcs, String.ofList_nil, ofLong?_empty] at hs
    cases hs

namespace Reading

/-! ## Reading one argument -/

/-- Nothing waits but an option without its value, if there is one. -/
def awaiting (w : Option Switch) (g : Given) : Reading := { given := g, waiting := w.map (·, none) }

/-- The option that waits for its value. -/
def wants (r : Reading) : Option Switch :=
  match r.waiting with
  | some (s, none) => some s
  | _ => none

/-- What is given before the value that is waited for. -/
def settled (r : Reading) : Except UsageError Given :=
  match r.waiting with
  | some (_, none) => .ok r.given
  | _ => r.settle

@[simp] theorem wants_awaiting (w : Option Switch) (g : Given) : (awaiting w g).wants = w := by
  cases w <;> rfl

@[simp] theorem settled_awaiting (w : Option Switch) (g : Given) :
    (awaiting w g).settled = .ok g := by
  cases w <;> rfl

/-- A reading that waits for nothing is settled as it is. -/
theorem settled_of_wants_none {r : Reading} (h : r.wants = none) : r.settled = r.settle := by
  obtain ⟨g, _ | ⟨s, _ | v⟩⟩ := r
  · rfl
  · cases h
  · rfl

theorem wantsValue_eq (r : Reading) : r.wantsValue = r.wants.isSome := by
  obtain ⟨g, _ | ⟨s, _ | v⟩⟩ := r <;> rfl

/-- An option without its value is not settled. -/
theorem settle_of_wants {r : Reading} {s : Switch} (h : r.wants = some s)
    (hs : s.takesValue = true) : r.settle = .error .invalidValue := by
  obtain ⟨g, _ | ⟨s', _ | v⟩⟩ := r
  · cases h
  · cases h
    show g.acceptFlag s = _
    cases s <;> first | rfl | cases hs
  · cases h

/-- A switch without its value waits for it. -/
theorem option_of_takesValue {s : Switch} (hs : s.takesValue = true) (r : Reading) :
    r.option s none = awaiting (some s) <$> r.settle := by
  unfold option
  cases r.settle with
  | error e => rfl
  | ok g =>
    show (if _ then _ else _ : Except UsageError Reading) = _
    rw [if_pos ⟨hs, rfl⟩]
    rfl

/-- A switch that waits for nothing is accepted at once. -/
theorem option_of_accept {s : Switch} {value : Option String}
    (h : ¬(s.takesValue = true ∧ value = none)) (r : Reading) :
    r.option s value = awaiting none <$> (r.settle >>= fun g => g.accept s value) := by
  unfold option
  cases r.settle with
  | error e => rfl
  | ok g =>
    show (if _ then _ else _ : Except UsageError Reading) = (awaiting none <$> g.accept s value)
    rw [if_neg h]
    cases g.accept s value <;> rfl

/-- What is read from one argument: first the waiting option is settled, then the occurrences follow. -/
def after (r : Reading) (os : List Occurrence) (w : Option Switch) : Except UsageError Reading :=
  awaiting w <$> (r.settle >>= (Given.acceptAll · os))

/-- Occurrences in one argument are read one after the other. -/
theorem after_cons (r : Reading) (o : Occurrence) (os : List Occurrence) (w : Option Switch) :
    r.after (o :: os) w = r.after [o] none >>= fun r' => r'.after os w := by
  unfold after Given.acceptAll
  cases r.settle with
  | error e => rfl
  | ok g =>
    show awaiting w <$> (g.accept o.switch o.value >>= fun g => _)
      = (awaiting none <$> (g.accept o.switch o.value >>= fun g => _)) >>= fun r' => _
    cases g.accept o.switch o.value <;> rfl

theorem option_flag_eq {s : Switch} (hs : s.takesValue = false) (r : Reading) :
    r.option s none = r.after [⟨s, none⟩] none := by
  rw [option_of_accept (by simp [hs])]
  unfold after Given.acceptAll
  simp only [List.foldlM_cons, List.foldlM_nil, bind_pure]

theorem option_value_eq (s : Switch) (value : String) (r : Reading) :
    r.option s (some value) = r.after [⟨s, some value⟩] none := by
  rw [option_of_accept (by simp)]
  unfold after Given.acceptAll
  simp only [List.foldlM_cons, List.foldlM_nil, bind_pure]

theorem option_waiting_eq {s : Switch} (hs : s.takesValue = true) (r : Reading) :
    r.option s none = r.after [] (some s) := by
  rw [option_of_takesValue hs]
  unfold after Given.acceptAll
  simp only [List.foldlM_nil, bind_pure]

/-- The value that stands right behind the letter of an option. -/
def attachedValue : List Char → Option String
  | [] => none
  | '=' :: value => some (String.ofList value)
  | value => some (String.ofList value)

/-- The first letter takes the rest for its value, or leaves it to the letters after it. -/
theorem shortOptions_cons {level : Level} {c : Char} {s : Switch}
    (hc : Switch.ofShort? level c = some s) (r : Reading) (cs : List Char) :
    r.shortOptions level (c :: cs) = if s.takesValue then r.option s (attachedValue cs)
      else r.option s none >>= fun r' => r'.shortOptions level cs := by
  conv => lhs; unfold shortOptions
  rw [hc]
  rfl

theorem attachedValue_cons {d : Char} (hd : d ≠ '=') (cs : List Char) :
    attachedValue (d :: cs) = some (String.ofList (d :: cs)) := by
  unfold attachedValue
  split
  · next heq => cases heq
  · next heq => exact absurd (List.cons.inj heq).1 hd
  · rfl

/-- After a first option nothing waits but what it left waiting. -/
theorem shortOptions_eq_after {level : Level} {cs : List Char} {os : List Occurrence}
    {w : Option Switch} (h : Letters level cs os w) {r : Reading}
    (hr : cs = [] → ∃ g, r = awaiting none g) : r.shortOptions level cs = r.after os w := by
  -- no letter at all is spelled only behind a flag, and then nothing waits
  induction h generalizing r with
  | done =>
    obtain ⟨g, rfl⟩ := hr rfl
    rfl
  | @flag c s cs os w hc hs _ ih =>
    rw [shortOptions_cons hc, hs, if_neg Bool.false_ne_true, option_flag_eq hs,
      after_cons r ⟨s, none⟩ os]
    unfold after
    cases hfirst : r.settle >>= (Given.acceptAll · [⟨s, none⟩]) with
    | error e => rfl
    | ok g => exact ih fun _ => ⟨g, rfl⟩
  | @equals c s value hc hs =>
    rw [shortOptions_cons hc, if_pos hs]
    exact option_value_eq _ _ r
  | attached hc hs hd =>
    rw [shortOptions_cons hc, if_pos hs, attachedValue_cons hd]
    exact option_value_eq _ _ r
  | waiting hc hs =>
    rw [shortOptions_cons hc, if_pos hs]
    exact option_waiting_eq hs r

section

variable {level : Level} {s : Switch} {name : List Char} (hname : '=' ∉ name)
  (hs : Switch.ofLong? level (String.ofList name) = some s)

include hname

theorem decide_ne_equals : ∀ c ∈ name, decide (c ≠ '=') = true := by
  intro c hc
  refine decide_eq_true ?_
  rintro rfl
  exact hname hc

include hs

theorem longOption_alone (r : Reading) : r.longOption level name = r.option s none := by
  have hall := decide_ne_equals hname
  have hfront : name.takeWhile (fun c => decide (c ≠ '=')) = name := by
    rw [← List.append_nil name, List.takeWhile_append_of_pos hall, List.takeWhile_nil]
  have hback : name.dropWhile (fun c => decide (c ≠ '=')) = [] := by
    rw [← List.append_nil name, List.dropWhile_append_of_pos hall, List.dropWhile_nil]
  unfold longOption
  rw [hfront, hback]
  dsimp only
  rw [hs]
  rfl

/-- The value of a long option is what comes after its first equals sign. -/
theorem longOption_attached (hvalue : s.takesValue = true) (r : Reading) (value : List Char) :
    r.longOption level (name ++ '=' :: value) = r.option s (some (String.ofList value)) := by
  unfold longOption
  rw [Text.takeWhile_ne_append hname, Text.dropWhile_ne_append hname]
  dsimp only
  rw [hs]
  dsimp only
  rw [if_neg (by simp [hvalue])]

end

/-- An argument that is an option is read as it is spelled. -/
theorem argument_eq_after {level : Level} {a : String} {os : List Occurrence} {w : Option Switch}
    (h : Dashed level a.toList os w) (r : Reading) : r.argument level a = r.after os w := by
  unfold argument
  generalize a.toList = cs at h
  cases h with
  | @short c cs os w hc hletters =>
    have hshort := shortOptions_eq_after hletters (r := r) nofun
    split
    · next heq => exact absurd (List.cons.inj (List.cons.inj heq).2).1 hc
    · next heq =>
      obtain ⟨rfl, rfl⟩ := List.cons.inj (List.cons.inj heq).2
      exact hshort
    · next hno => exact absurd rfl (hno c cs)
  | flag hname hs hflag =>
    show r.longOption level _ = _
    rw [longOption_alone hname hs]
    exact option_flag_eq hflag r
  | attached hname hs hvalue =>
    show r.longOption level _ = _
    rw [longOption_attached hname hs hvalue]
    exact option_value_eq _ _ r
  | waiting hname hs hvalue =>
    show r.longOption level _ = _
    rw [longOption_alone hname hs]
    exact option_waiting_eq hvalue r

/-- A plain argument is read as the value that is waited for. -/
theorem argument_of_isPlain {a : String} (h : IsPlain a) (level : Level) (r : Reading) :
    r.argument level a = match r.waiting with
      | some (s, none) => .ok { r with waiting := some (s, some a) }
      | _ => .error (strayArgument level) := by
  unfold argument
  split
  · next heq => exact absurd heq (h _ _)
  · next heq => exact absurd heq (h _ _)
  · rfl

/-! ## What is read is spelled -/

/-- Letters that are read spell occurrences. -/
theorem exists_letters {level : Level} {cs : List Char} {r r' : Reading}
    (h : r.shortOptions level cs = .ok r') : ∃ os w, Letters level cs os w := by
  -- a letter that takes a value ends the argument, and any other one leaves the rest to the next letters
  induction cs generalizing r with
  | nil => exact ⟨[], none, .done⟩
  | cons c cs ih =>
    cases hc : Switch.ofShort? level c with
    | none =>
      unfold shortOptions at h
      rw [hc] at h
      cases h
    | some s =>
      rw [shortOptions_cons hc] at h
      cases hs : s.takesValue with
      | true =>
        cases cs with
        | nil => exact ⟨[], some s, .waiting hc hs⟩
        | cons d value =>
          by_cases hd : d = '='
          · subst hd
            exact ⟨_, none, .equals hc hs⟩
          · exact ⟨_, none, .attached hc hs hd⟩
      | false =>
        rw [hs, if_neg Bool.false_ne_true] at h
        obtain ⟨r₁, -, hrest⟩ := Given.ok_bind_iff.mp h
        obtain ⟨os, w, hos⟩ := ih hrest
        exact ⟨_, w, .flag hc hs hos⟩

/-- A long option that is read spells an occurrence. -/
theorem exists_dashed_long {level : Level} {long : List Char} {r r' : Reading}
    (h : r.longOption level long = .ok r') : ∃ os w, Dashed level ('-' :: '-' :: long) os w := by
  have hsplit : long.takeWhile (fun c => decide (c ≠ '=')) ++ long.dropWhile (fun c => decide (c ≠ '='))
      = long := List.takeWhile_append_dropWhile
  have hname : '=' ∉ long.takeWhile (fun c => decide (c ≠ '=')) := by
    intro hmem
    simpa using List.all_eq_true.mp List.all_takeWhile _ hmem
  have hhead := List.head?_dropWhile_not (fun c => decide (c ≠ '=')) long
  -- from here on only the name counts and what stands behind it
  unfold longOption at h
  generalize long.takeWhile (fun c => decide (c ≠ '=')) = name at *
  generalize long.dropWhile (fun c => decide (c ≠ '=')) = back at *
  subst hsplit
  dsimp only at h
  cases hs : Switch.ofLong? level (String.ofList name) with
  | none =>
    rw [hs] at h
    cases h
  | some s =>
    rw [hs] at h
    dsimp only at h
    cases back with
    | nil =>
      rw [List.append_nil]
      cases hvalue : s.takesValue with
      | true => exact ⟨_, _, .waiting hname hs hvalue⟩
      | false => exact ⟨_, _, .flag hname hs hvalue⟩
    | cons c value =>
      obtain rfl : c = '=' := by simpa using hhead
      obtain ⟨hvalue, -⟩ := Given.ok_unless_iff.mp h
      exact ⟨_, _, .attached hname hs (by simpa using hvalue)⟩

/-- An argument that is read is an option, or the value of one. -/
theorem dashed_or_isPlain {level : Level} {a : String} {r r' : Reading}
    (h : r.argument level a = .ok r') :
    (∃ os w, Dashed level a.toList os w) ∨
      IsPlain a ∧ ∃ s, r.wants = some s ∧ r' = { r with waiting := some (s, some a) } := by
  unfold argument at h
  split at h
  · next long ha =>
    rw [ha]
    exact Or.inl (exists_dashed_long h)
  · next c short hno ha =>
    rw [ha]
    obtain ⟨os, w, hletters⟩ := exists_letters h
    have hc : c ≠ '-' := by
      rintro rfl
      exact hno rfl
    exact Or.inl ⟨os, w, .short hc hletters⟩
  · next hno hno' =>
    -- a plain word is an error unless a switch waits for it
    right
    refine ⟨fun c cs ha => hno' c cs ha, ?_⟩
    split at h
    · next s hw =>
      cases h
      refine ⟨s, ?_, rfl⟩
      unfold wants
      rw [hw]
    · cases h

end Reading

end BuildJdk.CommandLine
