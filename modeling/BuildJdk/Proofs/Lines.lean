import BuildJdk.Proofs.Spelling

/-!
# Reading whole command lines

Reading is sound and complete for spelling: the arguments are read just if they spell a line and both of its
levels are accepted.

So it is known which properties an invocation has. Main statement: it has those of all occurrences after
the command or, if there are none, of all in front of it; so none is lost just if they all stand on one side
of the command.
-/

namespace BuildJdk.CommandLine

namespace Reading

/-! ## Levels -/

/-- Only options that take a value wait for one. -/
def IsSound (r : Reading) : Prop := ∀ s, r.wants = some s → s.takesValue = true

/-- A reading that waits, waits for a value of a switch that takes one. -/
theorem isSound_awaiting {level : Level} {a : List Char} {os : List Occurrence}
    {w : Option Switch} (h : Dashed level a os w) (g : Given) : (awaiting w g).IsSound := by
  intro s hs
  rw [wants_awaiting] at hs
  exact h.takesValue s hs

/-- A reading that can be settled waits for no value. -/
theorem wants_eq_none_of_settle {r : Reading} {g : Given} (hr : r.IsSound)
    (h : r.settle = .ok g) : r.wants = none := by
  cases hw : r.wants with
  | none => rfl
  | some s =>
    rw [settle_of_wants hw (hr s hw)] at h
    cases h

/-- A reading goes on after an argument if the occurrences in it are accepted. -/
theorem after_eq_ok_iff {r r' : Reading} {os : List Occurrence} {w : Option Switch} :
    r.after os w = .ok r' ↔
      ∃ g, (r.settle >>= (Given.acceptAll · os)) = .ok g ∧ r' = awaiting w g := by
  unfold after
  cases r.settle >>= (Given.acceptAll · os) with
  | error e => exact ⟨nofun, fun ⟨_, h, _⟩ => nomatch h⟩
  | ok g =>
    constructor
    · rintro ⟨⟩
      exact ⟨g, rfl, rfl⟩
    · rintro ⟨_, ⟨⟩, rfl⟩
      rfl

/-- The reading after the value that was waited for. -/
def supplied (r : Reading) (s : Switch) (value : String) : Reading :=
  { r with waiting := some (s, some value) }

/-- A value that is supplied is accepted as one that is attached. -/
theorem settled_supplied {r : Reading} {s : Switch} (hw : r.wants = some s) (value : String)
    (os : List Occurrence) : ((r.supplied s value).settled >>= (Given.acceptAll · os))
      = (r.settled >>= (Given.acceptAll · (⟨s, some value⟩ :: os))) := by
  obtain ⟨g, _ | ⟨s', _ | v⟩⟩ := r
  · cases hw
  · cases hw
    rfl
  · cases hw

theorem argument_of_wants {a : String} (h : IsPlain a) (level : Level) {r : Reading} {s : Switch}
    (hw : r.wants = some s) : r.argument level a = .ok (r.supplied s a) := by
  rw [argument_of_isPlain h]
  obtain ⟨g, _ | ⟨s', _ | v⟩⟩ := r
  · cases hw
  · cases hw
    rfl
  · cases hw

/-- The occurrences of an argument are accepted before those of the next ones. -/
theorem settled_after {r : Reading} (hw : r.wants = none) (os os' : List Occurrence)
    (w : Option Switch) : (r.settled >>= (Given.acceptAll · (os ++ os')))
      = r.after os w >>= fun r' => r'.settled >>= (Given.acceptAll · os') := by
  rw [settled_of_wants_none hw]
  unfold after
  simp only [Given.acceptAll_append]
  cases r.settle with
  | error e => rfl
  | ok g =>
    show (g.acceptAll os >>= _) = (awaiting w <$> g.acceptAll os) >>= _
    cases g.acceptAll os with
    | error e => rfl
    | ok g' =>
      show g'.acceptAll os' = ((awaiting w g').settled >>= _)
      rw [settled_awaiting]
      rfl

end Reading

open Reading (IsSound)

/-- The arguments after a command give what their occurrences are accepted as. -/
theorem readAfter_eq {c : Subcommand} {w : Option Switch} {args closing : List String}
    {os : List Occurrence} (h : Spelled (.after c) w args os)
    (hclosing : closing = [] ∨ closing = ["--"]) {r : Reading} (hw : r.wants = w) :
    readAfter c r (args ++ closing) = (r.settled >>= (Given.acceptAll · os)) := by
  -- along the arguments: `settled` is what was given up to here, without the option that waits
  induction h generalizing r with
  | done =>
    have hsettle : readAfter c r closing = r.settle := by
      rcases hclosing with rfl | rfl <;> rfl
    rw [List.nil_append, hsettle, Reading.settled_of_wants_none hw]
    exact (bind_pure _).symm
  | @option a args os os' w' hdashed _ ih =>
    rw [List.cons_append, readAfter, if_neg (ne_dashes_of_dashed hdashed),
      Reading.argument_eq_after hdashed, Reading.settled_after hw os os' w']
    unfold Reading.after
    cases r.settle >>= (Given.acceptAll · os) with
    | error e => rfl
    | ok g => exact ih (Reading.wants_awaiting w' g)
  | @value a args s os hplain _ ih =>
    rw [List.cons_append, readAfter, if_neg (ne_dashes_of_isPlain hplain),
      Reading.argument_of_wants hplain _ hw, ← Reading.settled_supplied hw]
    exact ih rfl

/-- Arguments that are read after a command are spelled. -/
theorem exists_spelled {c : Subcommand} {args : List String} {r : Reading} {g : Given}
    (h : readAfter c r args = .ok g) (hr : r.IsSound) :
    ∃ front closing os, args = front ++ closing ∧ (closing = [] ∨ closing = ["--"]) ∧
      Spelled (.after c) r.wants front os := by
  induction args generalizing r with
  | nil =>
    -- the end is reached, so no option waits for its value
    rw [Reading.wants_eq_none_of_settle hr h]
    exact ⟨[], [], [], rfl, Or.inl rfl, .done⟩
  | cons a args ih =>
    rw [readAfter] at h
    by_cases ha : a = "--"
    · subst ha
      rw [if_pos rfl] at h
      by_cases hargs : args = []
      · subst hargs
        rw [if_pos rfl] at h
        rw [Reading.wants_eq_none_of_settle hr h]
        exact ⟨[], ["--"], [], rfl, Or.inr rfl, .done⟩
      · rw [if_neg hargs] at h
        cases h
    · rw [if_neg ha] at h
      obtain ⟨r₁, hfirst, hrest⟩ := Given.ok_bind_iff.mp h
      rcases Reading.dashed_or_isPlain hfirst with ⟨os, w, hdashed⟩ | ⟨hplain, s, hw, rfl⟩
      · rw [Reading.argument_eq_after hdashed] at hfirst
        obtain ⟨g₁, hsettle, rfl⟩ := Reading.after_eq_ok_iff.mp hfirst
        obtain ⟨g₀, hsettle, -⟩ := Given.ok_bind_iff.mp hsettle
        obtain ⟨front, closing, os', rfl, hclosing, hspelled⟩ :=
          ih hrest (Reading.isSound_awaiting hdashed g₁)
        rw [Reading.wants_awaiting] at hspelled
        rw [Reading.wants_eq_none_of_settle hr hsettle]
        exact ⟨a :: front, closing, os ++ os', rfl, hclosing, .option hdashed hspelled⟩
      · obtain ⟨front, closing, os, rfl, hclosing, hspelled⟩ := ih hrest nofun
        rw [hw]
        exact ⟨a :: front, closing, _, rfl, hclosing, .value hplain hspelled⟩

/-! ## Whole command lines -/

/-- A word that names a command starts the arguments of that command, and the options before it are merged with
those after it. -/
theorem readTop_command {r : Reading} {name : String} {c : Subcommand} (hw : r.wants = none)
    (hname : Subcommand.ofName? name = some c) (rest : List String) :
    readTop r (name :: rest) = (do
      let after ← readAfter c {} rest
      let before ← r.settle
      return {
        options := mergeOptions before.options after.options
        command := commandOf c after }) := by
  have hwants : r.wantsValue = false := by rw [Reading.wantsValue_eq, hw]; rfl
  have hhelp : name ≠ "help" := by
    rintro rfl
    cases hname
  rw [readTop, if_neg (by simp [hhelp]), hwants, if_neg Bool.false_ne_true, hname]

/-- An argument that is no command, or that a switch waits for, is read with the options before the command. -/
theorem readTop_argument {r : Reading} {a : String} (hdashes : a ≠ "--")
    (hword : r.wants = none → a ≠ "help" ∧ Subcommand.ofName? a = none) (rest : List String) :
    readTop r (a :: rest) = r.argument .top a >>= fun r' => readTop r' rest := by
  rw [readTop, Reading.wantsValue_eq]
  cases hw : r.wants with
  | none =>
    obtain ⟨hhelp, hname⟩ := hword hw
    simp [hhelp, hname, hdashes]
  | some s => simp [hdashes]

theorem readTop_dashes (r : Reading) (rest : List String) :
    readTop r ("--" :: rest) = .error (afterDashes r rest) := by
  rw [readTop]
  cases r.wantsValue <;> rfl

/-- An option is neither a command nor the word for help. -/
theorem not_word_of_dashed {level : Level} {a : String} {os : List Occurrence} {w : Option Switch}
    (h : Dashed level a.toList os w) : a ≠ "help" ∧ Subcommand.ofName? a = none := by
  have hplain := not_isPlain_of_dashed h
  constructor
  · rintro rfl
    exact hplain isPlain_help
  · cases hname : Subcommand.ofName? a with
    | none => rfl
    | some c => exact absurd (isPlain_of_ofName? hname) hplain

/-- A line is read just if both of its levels are accepted. -/
theorem readTop_eq_ok_iff {w : Option Switch} {before rest : List String} {os : List Occurrence}
    {name : String} {c : Subcommand} {i : Invocation} (h : Spelled .top w before os)
    (hname : Subcommand.ofName? name = some c) {r : Reading} (hw : r.wants = w) :
    readTop r (before ++ name :: rest) = .ok i ↔
      ∃ g after, (r.settled >>= (Given.acceptAll · os)) = .ok g ∧
        readAfter c {} rest = .ok after ∧
        i = { options := mergeOptions g.options after.options, command := commandOf c after } := by
  -- along the arguments in front of the command; a switch that waits gets the next of them
  induction h generalizing r with
  | done =>
    rw [List.nil_append, readTop_command hw hname, Reading.settled_of_wants_none hw]
    constructor
    · intro hrun
      obtain ⟨after, hafter, hrun⟩ := Given.ok_bind_iff.mp hrun
      obtain ⟨g, hg, ⟨⟩⟩ := Given.ok_bind_iff.mp hrun
      exact ⟨g, after, Given.ok_bind_iff.mpr ⟨g, hg, rfl⟩, hafter, rfl⟩
    · rintro ⟨g, after, hg, hafter, rfl⟩
      obtain ⟨g, hg, ⟨⟩⟩ := Given.ok_bind_iff.mp hg
      rw [hafter, hg]
      rfl
  | @option a args os os' w' hdashed _ ih =>
    rw [List.cons_append, readTop_argument (ne_dashes_of_dashed hdashed)
      (fun _ => not_word_of_dashed hdashed), Reading.argument_eq_after hdashed,
      Reading.settled_after hw os os' w']
    cases hfirst : r.after os w' with
    | error e => exact ⟨nofun, fun ⟨_, _, h, _⟩ => nomatch h⟩
    | ok r₁ =>
      obtain ⟨g₁, -, rfl⟩ := Reading.after_eq_ok_iff.mp hfirst
      exact ih (Reading.wants_awaiting w' g₁)
  | @value a args s os hplain _ ih =>
    have hword : r.wants = none → a ≠ "help" ∧ Subcommand.ofName? a = none := by
      rw [hw]
      exact nofun
    rw [List.cons_append, readTop_argument (ne_dashes_of_isPlain hplain) hword,
      Reading.argument_of_wants hplain _ hw, ← Reading.settled_supplied hw]
    exact ih rfl

theorem Spells.option {a : String} {args : List String} {os : List Occurrence} {w : Option Switch}
    {l : Line} (ha : Dashed .top a.toList os w) (h : Spells w args l) :
    Spells none (a :: args) { l with before := os ++ l.before } := by
  obtain ⟨hbefore, hname, hafter, hclosing⟩ := h
  rw [← List.cons_append]
  exact .line (.option ha hbefore) hname hafter hclosing

theorem Spells.value {a : String} {args : List String} {s : Switch} {l : Line} (ha : IsPlain a)
    (h : Spells none args l) :
    Spells (some s) (a :: args) { l with before := ⟨s, some a⟩ :: l.before } := by
  obtain ⟨hbefore, hname, hafter, hclosing⟩ := h
  rw [← List.cons_append]
  exact .line (.value ha hbefore) hname hafter hclosing

/-- Arguments that are read spell a line. -/
theorem exists_spells {args : List String} {r : Reading} {i : Invocation}
    (h : readTop r args = .ok i) (hr : r.IsSound) : ∃ l, Spells r.wants args l := by
  induction args generalizing r with
  | nil => cases h
  | cons a args ih =>
    -- the name of a command is one only where no option waits for its value
    by_cases hcommand : r.wants = none ∧ (Subcommand.ofName? a).isSome = true
    · obtain ⟨hw, hname⟩ := hcommand
      obtain ⟨c, hname⟩ := Option.isSome_iff_exists.mp hname
      rw [readTop_command hw hname] at h
      obtain ⟨after, hafter, -⟩ := Given.ok_bind_iff.mp h
      obtain ⟨front, closing, os, rfl, hclosing, hspelled⟩ := exists_spelled hafter nofun
      have hl : Spells none ([] ++ a :: (front ++ closing)) ⟨[], c, os⟩ :=
        .line .done hname hspelled hclosing
      rw [hw]
      exact ⟨_, hl⟩
    · have hword : r.wants = none → a ≠ "help" ∧ Subcommand.ofName? a = none := by
        intro hw
        refine ⟨?_, ?_⟩
        · rintro rfl
          rw [readTop, Reading.wantsValue_eq, hw] at h
          cases h
        · simpa [hw] using hcommand
      have hdashes : a ≠ "--" := by
        rintro rfl
        rw [readTop_dashes] at h
        cases h
      rw [readTop_argument hdashes hword] at h
      obtain ⟨r₁, hfirst, hrest⟩ := Given.ok_bind_iff.mp h
      rcases Reading.dashed_or_isPlain hfirst with ⟨os, w, hdashed⟩ | ⟨hplain, s, hw, rfl⟩
      · rw [Reading.argument_eq_after hdashed] at hfirst
        obtain ⟨g₁, hsettle, rfl⟩ := Reading.after_eq_ok_iff.mp hfirst
        obtain ⟨g₀, hsettle, -⟩ := Given.ok_bind_iff.mp hsettle
        obtain ⟨l, hl⟩ := ih hrest (Reading.isSound_awaiting hdashed g₁)
        rw [Reading.wants_awaiting] at hl
        rw [Reading.wants_eq_none_of_settle hr hsettle]
        exact ⟨_, hl.option hdashed⟩
      · obtain ⟨l, hl⟩ := ih hrest nofun
        rw [hw]
        exact ⟨_, hl.value hplain⟩

/-- Arguments that spell a line are read as what the line says. -/
theorem Spells.parse_eq_ok_iff {args : List String} {l : Line} (h : Spells none args l)
    (i : Invocation) : parse args = .ok i ↔ l.Says i := by
  obtain ⟨hbefore, hname, hafter, hclosing⟩ := h
  have hlast : readAfter l.command {} _ = Given.acceptAll {} l.after :=
    readAfter_eq hafter hclosing rfl
  show readTop {} _ = _ ↔ _
  rw [readTop_eq_ok_iff hbefore hname rfl, hlast]
  rfl

/-- Arguments are read as an invocation just if they spell a line that says it. -/
theorem parse_eq_ok_iff {args : List String} {i : Invocation} :
    parse args = .ok i ↔ ∃ l, Spells none args l ∧ l.Says i := by
  constructor
  · intro h
    obtain ⟨l, hl⟩ := exists_spells h nofun
    exact ⟨l, hl, (hl.parse_eq_ok_iff i).mp h⟩
  · rintro ⟨l, hl, hsays⟩
    exact (hl.parse_eq_ok_iff i).mpr hsays

/-! ## Properties -/

/-- The values of an option, in the order of its occurrences. -/
def valuesOf (s : Switch) (os : List Occurrence) : List String :=
  (occurrencesOf s os).filterMap (·.value)

/-- What the values of an option say as properties. -/
def propertiesOf (s : Switch) (os : List Occurrence) :
    List (Except Property.PairError (String × String)) := (valuesOf s os).map Property.parsePair

/-- The properties of all occurrences of an option, wherever they stand. -/
def Line.allProperties (l : Line) (s : Switch) :
    List (Except Property.PairError (String × String)) := propertiesOf s (l.before ++ l.after)

/-- The properties of the occurrences after the command or, if there are none, of those in front of it. -/
def Line.lastProperties (l : Line) (s : Switch) :
    List (Except Property.PairError (String × String)) :=
  if valuesOf s l.after = [] then propertiesOf s l.before else propertiesOf s l.after

theorem parsePair_of_property {value : String} {pair : String × String}
    (h : Given.property value = .ok pair) : Property.parsePair value = .ok pair := by
  unfold Given.property at h
  cases hparse : Property.parsePair value with
  | error e =>
    rw [hparse] at h
    cases h
  | ok p =>
    rw [hparse] at h
    cases h
    rfl

/-- Only a value that is a property gives one. -/
theorem exists_value_of_item? {s : Switch} (hs : s = .project ∨ s = .system)
    {value : Option String} {pair : String × String}
    (h : s.item? value = some (.property pair)) :
    ∃ v, value = some v ∧ Property.parsePair v = .ok pair := by
  cases value with
  | none => rcases hs with rfl | rfl <;> cases h
  | some v =>
    have hpair : (Given.property v).toOption.map Item.property = some (.property pair) := by
      rcases hs with rfl | rfl <;> exact h
    cases hv : Given.property v with
    | error e =>
      rw [hv] at hpair
      cases hpair
    | ok p =>
      rw [hv] at hpair
      cases hpair
      exact ⟨v, rfl, parsePair_of_property hv⟩

theorem propertiesOf_eq {s : Switch} (hs : s = .project ∨ s = .system) {os : List Occurrence}
    {pairs : List (String × String)}
    (h : (occurrencesOf s os).map (fun o => s.item? o.value) = (pairs.map .property).map some) :
    propertiesOf s os = pairs.map .ok := by
  unfold propertiesOf valuesOf
  generalize occurrencesOf s os = found at h
  induction found generalizing pairs with
  | nil =>
    obtain rfl : pairs = [] := by simpa using h.symm
    rfl
  | cons o found ih =>
    cases pairs with
    | nil => cases h
    | cons pair pairs =>
      obtain ⟨hhead, htail⟩ := List.cons.inj h
      obtain ⟨v, hv, hparse⟩ := exists_value_of_item? hs hhead
      rw [List.filterMap_cons_some hv, List.map_cons, List.map_cons, hparse, ih htail]

theorem valuesOf_eq_nil_iff {s : Switch} {os : List Occurrence} {pairs : List (String × String)}
    (h : propertiesOf s os = pairs.map .ok) : valuesOf s os = [] ↔ pairs = [] := by
  have hvalues : propertiesOf s os = [] ↔ valuesOf s os = [] := List.map_eq_nil_iff
  rw [← hvalues, h, List.map_eq_nil_iff]

/-- Properties are taken in the order of their occurrences. -/
theorem propertiesOf_append (s : Switch) (os os' : List Occurrence) :
    propertiesOf s (os ++ os') = propertiesOf s os ++ propertiesOf s os' := by
  unfold propertiesOf valuesOf
  rw [occurrencesOf_append, List.filterMap_append, List.map_append]

/-- None is lost just if they all stand on one side of the command. -/
theorem Line.allProperties_eq_iff (l : Line) (s : Switch) :
    l.allProperties s = l.lastProperties s ↔ valuesOf s l.before = [] ∨ valuesOf s l.after = [] := by
  have hlength : ∀ os, (propertiesOf s os).length = (valuesOf s os).length :=
    fun os => List.length_map _
  unfold allProperties lastProperties
  rw [propertiesOf_append]
  by_cases hafter : valuesOf s l.after = []
  · have hnone : propertiesOf s l.after = [] := by
      unfold propertiesOf
      rw [hafter, List.map_nil]
    rw [if_pos hafter, hnone, List.append_nil]
    exact iff_of_true rfl (Or.inr hafter)
  · rw [if_neg hafter]
    constructor
    · intro h
      -- in the longer list the properties in front of the command are left over
      have hsum := congrArg List.length h
      rw [List.length_append, hlength, hlength] at hsum
      exact Or.inl (List.eq_nil_of_length_eq_zero (by omega))
    · intro h
      have hnone : propertiesOf s l.before = [] := by
        unfold propertiesOf
        rw [h.resolve_right hafter, List.map_nil]
      rw [hnone, List.nil_append]

/-- The pairs after the command count if there are any, and else those before it. -/
theorem lastProperties_eq {s : Switch} {l : Line} {before after : List (String × String)}
    (hbefore : propertiesOf s l.before = before.map .ok)
    (hafter : propertiesOf s l.after = after.map .ok) :
    l.lastProperties s = (if after = [] then before else after).map .ok := by
  unfold Line.lastProperties
  by_cases hnone : after = []
  · rw [if_pos ((valuesOf_eq_nil_iff hafter).mpr hnone), if_pos hnone, hbefore]
  · rw [if_neg fun h => hnone ((valuesOf_eq_nil_iff hafter).mp h), if_neg hnone, hafter]

/-- A line that is accepted says the pairs that count. -/
theorem Line.Says.properties {l : Line} {i : Invocation} (h : l.Says i) :
    l.lastProperties .project = i.options.project.map .ok ∧
      l.lastProperties .system = i.options.system.map .ok := by
  obtain ⟨before, after, hbefore, hafter, rfl⟩ := h
  have hb := Given.gives_of_acceptAll hbefore
  have ha := Given.gives_of_acceptAll hafter
  exact ⟨lastProperties_eq (propertiesOf_eq (Or.inl rfl) (hb.items_eq .project))
      (propertiesOf_eq (Or.inl rfl) (ha.items_eq .project)),
    lastProperties_eq (propertiesOf_eq (Or.inr rfl) (hb.items_eq .system))
      (propertiesOf_eq (Or.inr rfl) (ha.items_eq .system))⟩

/-- Arguments that are read spell a line. An invocation has the properties of the last side of the command
that has any, in the order of their occurrences, each once. These are the properties of all occurrences just
if there are none on the other side. -/
theorem parse_properties {args : List String} {i : Invocation} (h : parse args = .ok i) :
    (∃ l, Spells none args l) ∧ ∀ l, Spells none args l →
      l.lastProperties .project = i.options.project.map .ok ∧
      l.lastProperties .system = i.options.system.map .ok ∧
      (l.allProperties .project = i.options.project.map .ok ↔
        valuesOf .project l.before = [] ∨ valuesOf .project l.after = []) ∧
      (l.allProperties .system = i.options.system.map .ok ↔
        valuesOf .system l.before = [] ∨ valuesOf .system l.after = []) := by
  refine ⟨exists_spells h nofun, fun l hl => ?_⟩
  obtain ⟨hproject, hsystem⟩ := ((hl.parse_eq_ok_iff i).mp h).properties
  refine ⟨hproject, hsystem, ?_, ?_⟩
  · rw [← hproject]
    exact l.allProperties_eq_iff .project
  · rw [← hsystem]
    exact l.allProperties_eq_iff .system

/-- The property of the system in front of the command is lost, and that of the build is kept. -/
theorem parse_properties_lost :
    let args := ["-P", "a=1", "-D", "x=9", "resolve", "-D", "y=8"]
    let i : Invocation := {
      options := { project := [("a", "1")], system := [("y", "8")] }
      command := .resolve false }
    parse args = .ok i ∧ ∀ l, Spells none args l →
      l.lastProperties .system = [.ok ("y", "8")] := by
  intro args i
  have hparse : parse args = .ok i := by decide +kernel
  exact ⟨hparse, fun l hl => ((parse_properties hparse).2 l hl).2.1⟩

/-- The first of two properties is lost. -/
theorem parse_loses_first :
    let args := ["-P", "a=1", "resolve", "-P", "b=2"]
    let l : Line := ⟨[⟨.project, some "a=1"⟩], .resolve, [⟨.project, some "b=2"⟩]⟩
    Spells none args l ∧ l.allProperties .project = [.ok ("a", "1"), .ok ("b", "2")] ∧
      parse args
        = .ok { options := { project := [("b", "2")] }, command := .resolve false } := by
  intro args l
  refine ⟨?_, by decide +kernel, by decide +kernel⟩
  have hoption : ∀ level, Dashed level ("-P" : String).toList [] (some .project) :=
    fun level => .short (by decide) (.waiting rfl rfl)
  have hbefore : Spelled .top none ["-P", "a=1"] l.before :=
    .option (hoption .top) (.value (by intro c cs; simp) .done)
  have hafter : Spelled (.after .resolve) none ["-P", "b=2"] l.after :=
    .option (hoption (.after .resolve)) (.value (by intro c cs; simp) .done)
  exact .line hbefore rfl hafter (Or.inl rfl)

end BuildJdk.CommandLine
