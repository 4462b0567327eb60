import BuildJdk.Proofs.Lines
import BuildJdk.Proofs.Trimming

/-!
# The canonical spelling of a command line

Every invocation has a canonical spelling: each option is one argument with its value attached, those that
hold for every command in front of the command, and those of the command after it. Values are taken as they
are written, also if they start with a dash or have blanks or equals signs in them.

Main statement: reading undoes the canonical spelling. The occurrences of different options may change
places on their side of the command; those of one option keep their order.
-/

namespace BuildJdk.CommandLine

/-! ## Spelling an invocation -/

/-- How an option is written, up to its value if it takes one. -/
def Switch.stem : Switch → String
  | config => "--config="
  | project => "-P"
  | system => "-D"
  | javaHome => "--java-home="
  | verbose => "-v"
  | help => "--help"
  | version => "--version"
  | json => "--json"
  | policy => "--policy="
  | remoteCache => "--remote-cache"
  | root => "--root="

/-- An occurrence as one argument. -/
def Occurrence.text (o : Occurrence) : String := o.switch.stem ++ o.value.getD ""

/-- Occurrences of one option, by the values that they have. -/
def Switch.occurrences (s : Switch) (values : List (Option String)) : List Occurrence :=
  values.map fun value => ⟨s, value⟩

/-- Paths as values. -/
def pathValues (paths : List Path) : List (Option String) := paths.map fun p => some p.text

/-- Properties as values. -/
def pairValues (pairs : List (String × String)) : List (Option String) :=
  pairs.map fun pair => some (pair.1 ++ "=" ++ pair.2)

/-- Policies as values. -/
def choiceValues (choices : List PolicyChoice) : List (Option String) :=
  choices.map fun c => some c.name

/-- A flag is given without a value. -/
def flagValues (b : Bool) : List (Option String) := if b then [none] else []

/-- The occurrences in front of the command. -/
def Options.occurrences (o : Options) : List Occurrence :=
  Switch.config.occurrences (pathValues o.config.toList)
    ++ Switch.javaHome.occurrences (pathValues o.javaHome.toList)
    ++ Switch.project.occurrences (pairValues o.project)
    ++ Switch.system.occurrences (pairValues o.system)
    ++ Switch.verbose.occurrences (flagValues o.verbose)

namespace Command

/-- The name of the command. -/
def name : Command → String
  | resolve _ => "resolve"
  | validate _ _ _ => "validate"
  | scan _ _ => "scan"

/-- The command without its options. -/
def subcommand : Command → Subcommand
  | resolve _ => .resolve
  | validate _ _ _ => .validate
  | scan _ _ => .scan

/-- The occurrences after the command. -/
def occurrences : Command → List Occurrence
  | resolve json => Switch.json.occurrences (flagValues json)
  | validate policies remoteCache json =>
    Switch.policy.occurrences (choiceValues policies)
      ++ Switch.remoteCache.occurrences (flagValues remoteCache)
      ++ Switch.json.occurrences (flagValues json)
  | scan roots json =>
    Switch.root.occurrences (pathValues roots) ++ Switch.json.occurrences (flagValues json)

/-- What the options after the command give. -/
def given : Command → Given
  | resolve json => { json }
  | validate policies remoteCache json => { policies, remoteCache, json }
  | scan roots json => { roots, json }

end Command

/-- The same occurrences, and those of each option in the same order. -/
def Reordered (os os' : List Occurrence) : Prop := ∀ s, occurrencesOf s os = occurrencesOf s os'

/-- An invocation whose values can be written: no path is empty, and each property has a name, and a value
without blanks around it. -/
structure Spellable (i : Invocation) : Prop where
  config_ne : ∀ p, i.options.config = some p → p.text ≠ ""
  javaHome_ne : ∀ p, i.options.javaHome = some p → p.text ≠ ""
  name_ok : ∀ pair ∈ i.options.project ++ i.options.system, Property.checkName pair.1 = .ok ()
  trim_eq : ∀ pair ∈ i.options.project ++ i.options.system, Text.trim pair.2 = pair.2
  root_ne : ∀ roots json, i.command = .scan roots json → ∀ p ∈ roots, p.text ≠ ""

end BuildJdk.CommandLine

/-! ## Properties as texts -/

namespace BuildJdk.Text

theorem isAlphanumeric_of_isBlank {c : Char} (hc : isBlank c = true) : isAlphanumeric c = false :=
  inRanges_eq_false_of_apart (by decide +kernel) hc

end BuildJdk.Text

namespace BuildJdk.Property

open Text

/-- No character of a name is blank, so nothing is cut off a name. -/
theorem not_isBlank_of_isNameChar {c : Char} (hc : isNameChar c = true) : isBlank c = false := by
  cases hblank : isBlank c with
  | false => rfl
  | true =>
    simp only [isNameChar, isAlphanumeric_of_isBlank hblank, Bool.false_or, Bool.or_eq_true,
      decide_eq_true_eq] at hc
    rcases hc with (rfl | rfl) | rfl <;> exact absurd hblank (by decide)

/-- A name is accepted if it is not empty and has the characters of names only. -/
theorem checkName_eq_ok_iff {name : String} :
    checkName name = .ok () ↔ name ≠ "" ∧ ∀ c ∈ name.toList, isNameChar c = true := by
  unfold checkName
  by_cases hempty : name = ""
  · simp [hempty]
  · rw [if_neg hempty, ← List.all_eq_true]
    by_cases hall : name.toList.all isNameChar = true
    · rw [if_pos hall]
      exact iff_of_true rfl ⟨hempty, hall⟩
    · rw [if_neg hall]
      exact iff_of_false nofun fun h => hall h.2

theorem ne_equals_of_isNameChar {c : Char} (hc : isNameChar c = true) : c ≠ '=' := by
  rintro rfl
  exact absurd hc (by decide +kernel)

/-- A key with its value is read as the two. -/
theorem parsePair_append {key value : String} (hkey : checkName key = .ok ())
    (hvalue : trim value = value) : parsePair (key ++ "=" ++ value) = .ok (key, value) := by
  obtain ⟨-, hchars⟩ := checkName_eq_ok_iff.mp hkey
  have hequals : '=' ∉ key.toList := fun hc => ne_equals_of_isNameChar (hchars _ hc) rfl
  have hlist : (key ++ "=" ++ value).toList = key.toList ++ '=' :: value.toList := by simp
  have htrim : trim key = key :=
    trim_of_not_isBlank fun c hc => not_isBlank_of_isNameChar (hchars c hc)
  unfold parsePair
  rw [hlist, dropWhile_ne_append hequals, takeWhile_ne_append hequals]
  simp only [String.ofList_toList, htrim, hkey, hvalue]

end BuildJdk.Property

namespace BuildJdk.CommandLine

/-! ## Canonical arguments -/

/-- An argument that spells one occurrence, with nothing left to come. -/
def Occurrence.IsCanonical (level : Level) (o : Occurrence) : Prop :=
  Dashed level o.text.toList [o] none

section

variable {level : Level} {s : Switch}

/-- A flag is canonical by its long name. -/
theorem isCanonical_flag (name : String) (hstem : s.stem = "--" ++ name)
    (hname : '=' ∉ name.toList) (hs : Switch.ofLong? level name = some s)
    (hflag : s.takesValue = false) : Occurrence.IsCanonical level ⟨s, none⟩ := by
  have htext : (Occurrence.text ⟨s, none⟩).toList = '-' :: '-' :: name.toList := by
    simp [Occurrence.text, hstem]
  unfold Occurrence.IsCanonical
  rw [htext]
  exact .flag hname (by rw [String.ofList_toList, hs]) hflag

/-- A value is canonical when it is attached to the long name by an equals sign. -/
theorem isCanonical_attached (name : String) (hstem : s.stem = "--" ++ name ++ "=")
    (hname : '=' ∉ name.toList) (hs : Switch.ofLong? level name = some s)
    (hvalue : s.takesValue = true) (v : String) : Occurrence.IsCanonical level ⟨s, some v⟩ := by
  have htext : (Occurrence.text ⟨s, some v⟩).toList
      = '-' :: '-' :: (name.toList ++ '=' :: v.toList) := by
    simp [Occurrence.text, hstem]
  have hdashed : Dashed level ('-' :: '-' :: (name.toList ++ '=' :: v.toList))
      [⟨s, some (String.ofList v.toList)⟩] none :=
    .attached hname (by rw [String.ofList_toList, hs]) hvalue
  unfold Occurrence.IsCanonical
  rw [htext]
  rwa [String.ofList_toList] at hdashed

theorem isCanonical_letter {c : Char} (hstem : s.stem = String.ofList ['-', c]) (hc : c ≠ '-')
    (hs : Switch.ofShort? level c = some s) (hflag : s.takesValue = false) :
    Occurrence.IsCanonical level ⟨s, none⟩ := by
  have htext : (Occurrence.text ⟨s, none⟩).toList = ['-', c] := by
    simp [Occurrence.text, hstem]
  unfold Occurrence.IsCanonical
  rw [htext]
  exact .short hc (.flag hs hflag .done)

/-- The name of the property stands right behind the letter of the option, also if it starts with a dash. -/
theorem isCanonical_pair {c : Char} (hstem : s.stem = String.ofList ['-', c]) (hc : c ≠ '-')
    (hs : Switch.ofShort? level c = some s) (hvalue : s.takesValue = true)
    {pair : String × String} (hkey : Property.checkName pair.1 = .ok ()) :
    Occurrence.IsCanonical level ⟨s, some (pair.1 ++ "=" ++ pair.2)⟩ := by
  obtain ⟨key, value⟩ := pair
  obtain ⟨hempty, hchars⟩ := Property.checkName_eq_ok_iff.mp hkey
  obtain ⟨d, ds, hlist⟩ : ∃ d ds, key.toList = d :: ds :=
    List.exists_cons_of_ne_nil fun h => hempty (String.toList_eq_nil_iff.mp h)
  have hd : d ≠ '=' :=
    Property.ne_equals_of_isNameChar (hchars d (by simp [hlist]))
  have hvalueText : (key ++ "=" ++ value).toList = d :: (ds ++ '=' :: value.toList) := by
    simp [hlist]
  have htext : (Occurrence.text ⟨s, some (key ++ "=" ++ value)⟩).toList
      = '-' :: c :: d :: (ds ++ '=' :: value.toList) := by
    simp [Occurrence.text, hstem, hlist]
  have hdashed : Dashed level ('-' :: c :: d :: (ds ++ '=' :: value.toList))
      [⟨s, some (String.ofList (d :: (ds ++ '=' :: value.toList)))⟩] none :=
    .short hc (.attached hs hvalue hd)
  -- only the value is put together again, and not the whole argument
  rw [← hvalueText, String.ofList_toList, hvalueText] at hdashed
  unfold Occurrence.IsCanonical
  rw [htext]
  exact hdashed

end

theorem mem_occurrences {s : Switch} {values : List (Option String)} {o : Occurrence} :
    o ∈ s.occurrences values ↔ ∃ value ∈ values, o = ⟨s, value⟩ := by
  simp [Switch.occurrences, eq_comm]

theorem eq_none_of_mem_flagValues {b : Bool} {value : Option String} (h : value ∈ flagValues b) :
    value = none := by
  cases b <;> simp_all [flagValues]

/-- The options in front of the command are spelled one by one. -/
theorem Spellable.isCanonical_options {i : Invocation} (hi : Spellable i) :
    ∀ o ∈ i.options.occurrences, o.IsCanonical .top := by
  intro o ho
  unfold Options.occurrences at ho
  simp only [List.mem_append, mem_occurrences] at ho
  rcases ho with (((⟨v, hv, rfl⟩ | ⟨v, hv, rfl⟩) | ⟨v, hv, rfl⟩) | ⟨v, hv, rfl⟩) | ⟨v, hv, rfl⟩
  · obtain ⟨p, -, rfl⟩ := List.mem_map.mp hv
    exact isCanonical_attached "config" rfl (by decide) rfl rfl p.text
  · obtain ⟨p, -, rfl⟩ := List.mem_map.mp hv
    exact isCanonical_attached "java-home" rfl (by decide) rfl rfl p.text
  · obtain ⟨pair, hpair, rfl⟩ := List.mem_map.mp hv
    exact isCanonical_pair rfl (by decide) rfl rfl (hi.name_ok pair (List.mem_append_left _ hpair))
  · obtain ⟨pair, hpair, rfl⟩ := List.mem_map.mp hv
    exact isCanonical_pair rfl (by decide) rfl rfl (hi.name_ok pair (List.mem_append_right _ hpair))
  · obtain rfl := eq_none_of_mem_flagValues hv
    exact isCanonical_letter rfl (by decide) rfl rfl

/-- The options after the command are spelled one by one. -/
theorem Command.isCanonical (c : Command) :
    ∀ o ∈ c.occurrences, o.IsCanonical (.after c.subcommand) := by
  intro o ho
  have hjson : ∀ command, Occurrence.IsCanonical (.after command) ⟨.json, none⟩ := by
    intro command
    refine isCanonical_flag "json" rfl (by decide) ?_ rfl
    cases command <;> rfl
  cases c with
  | resolve json =>
    obtain ⟨v, hv, rfl⟩ := mem_occurrences.mp ho
    obtain rfl := eq_none_of_mem_flagValues hv
    exact hjson .resolve
  | validate policies remoteCache json =>
    simp only [occurrences, List.mem_append, mem_occurrences] at ho
    rcases ho with (⟨v, hv, rfl⟩ | ⟨v, hv, rfl⟩) | ⟨v, hv, rfl⟩
    · obtain ⟨choice, -, rfl⟩ := List.mem_map.mp hv
      exact isCanonical_attached "policy" rfl (by decide) rfl rfl choice.name
    · obtain rfl := eq_none_of_mem_flagValues hv
      exact isCanonical_flag "remote-cache" rfl (by decide) rfl rfl
    · obtain rfl := eq_none_of_mem_flagValues hv
      exact hjson .validate
  | scan roots json =>
    simp only [occurrences, List.mem_append, mem_occurrences] at ho
    rcases ho with ⟨v, hv, rfl⟩ | ⟨v, hv, rfl⟩
    · obtain ⟨p, -, rfl⟩ := List.mem_map.mp hv
      exact isCanonical_attached "root" rfl (by decide) rfl rfl p.text
    · obtain rfl := eq_none_of_mem_flagValues hv
      exact hjson .scan

/-- Arguments that each spell one occurrence spell them all. -/
theorem spelled_of_isCanonical {level : Level} {os : List Occurrence}
    (h : ∀ o ∈ os, o.IsCanonical level) : Spelled level none (os.map Occurrence.text) os := by
  induction os with
  | nil => exact .done
  | cons o os ih =>
    rw [List.map_cons]
    have hfirst : o.IsCanonical level := h o List.mem_cons_self
    exact .option hfirst (ih fun o' ho' => h o' (List.mem_cons_of_mem o ho'))

/-! ## What canonical occurrences give -/

/-- A switch occurs among the occurrences of its own values only. -/
theorem occurrencesOf_occurrences (s s' : Switch) (values : List (Option String)) :
    occurrencesOf s (s'.occurrences values) = if s' = s then s'.occurrences values else [] := by
  unfold occurrencesOf Switch.occurrences
  by_cases h : s' = s <;> simp [h]

theorem map_item?_occurrences (s : Switch) (values : List (Option String)) :
    (s.occurrences values).map (fun o => s.item? o.value) = values.map s.item? := by
  simp [Switch.occurrences]

/-- Paths that are not empty are read from their texts. -/
theorem map_item?_pathValues {s : Switch} (hs : s = .config ∨ s = .javaHome ∨ s = .root)
    {paths : List Path} (h : ∀ p ∈ paths, p.text ≠ "") :
    (pathValues paths).map s.item? = (paths.map .path).map some := by
  simp only [pathValues, List.map_map]
  refine List.map_congr_left fun p hp => ?_
  have hpath : Given.path p.text = .ok p := if_neg (h p hp)
  rcases hs with rfl | rfl | rfl <;>
    simp only [Function.comp_apply, Switch.item?, hpath, Except.toOption, Option.map_some]

/-- Pairs with a proper name and a trimmed value are read from their texts. -/
theorem map_item?_pairValues {s : Switch} (hs : s = .project ∨ s = .system)
    {pairs : List (String × String)} (hname : ∀ pair ∈ pairs, Property.checkName pair.1 = .ok ())
    (hvalue : ∀ pair ∈ pairs, Text.trim pair.2 = pair.2) :
    (pairValues pairs).map s.item? = (pairs.map .property).map some := by
  simp only [pairValues, List.map_map]
  refine List.map_congr_left fun pair hpair => ?_
  have hproperty : Given.property (pair.1 ++ "=" ++ pair.2) = .ok pair := by
    unfold Given.property
    rw [Property.parsePair_append (hname pair hpair) (hvalue pair hpair)]
  rcases hs with rfl | rfl <;>
    simp only [Function.comp_apply, Switch.item?, hproperty, Except.toOption, Option.map_some]

theorem map_item?_choiceValues (choices : List PolicyChoice) :
    (choiceValues choices).map (Switch.item? .policy) = (choices.map .choice).map some := by
  simp only [choiceValues, List.map_map]
  refine List.map_congr_left fun c _ => ?_
  cases c <;> decide

theorem map_item?_flagValues {s : Switch} (hs : s = .verbose ∨ s = .json ∨ s = .remoteCache)
    (b : Bool) : (flagValues b).map s.item? = (Given.flagItems b).map some := by
  rcases hs with rfl | rfl | rfl <;> cases b <;> rfl

/-- The canonical occurrences in front of the command give its options. -/
theorem Spellable.gives_options {i : Invocation} (hi : Spellable i) :
    Gives i.options.occurrences
      { options := i.options, any := !i.options.occurrences.isEmpty } := by
  refine ⟨fun s => ?_, rfl⟩
  have hconfig : (pathValues i.options.config.toList).map (Switch.item? .config) = _ :=
    map_item?_pathValues (Or.inl rfl) (by simpa using hi.config_ne)
  have hjavaHome : (pathValues i.options.javaHome.toList).map (Switch.item? .javaHome) = _ :=
    map_item?_pathValues (Or.inr (Or.inl rfl)) (by simpa using hi.javaHome_ne)
  have hproject := map_item?_pairValues (s := .project) (Or.inl rfl)
    (fun pair h => hi.name_ok pair (List.mem_append_left _ h))
    (fun pair h => hi.trim_eq pair (List.mem_append_left _ h))
  have hsystem := map_item?_pairValues (s := .system) (Or.inr rfl)
    (fun pair h => hi.name_ok pair (List.mem_append_right _ h))
    (fun pair h => hi.trim_eq pair (List.mem_append_right _ h))
  have hverbose := map_item?_flagValues (s := .verbose) (Or.inl rfl) i.options.verbose
  -- of the five lists one is left, that of the option itself
  cases s <;> simp only [Options.occurrences, occurrencesOf_append, occurrencesOf_occurrences,
    reduceCtorEq, if_true, if_false, List.append_nil, List.nil_append, map_item?_occurrences,
    Given.items, *] <;> rfl

/-- The canonical occurrences after the command give what the command says. -/
theorem Spellable.gives_command {i : Invocation} (hi : Spellable i) :
    Gives i.command.occurrences
      { i.command.given with any := !i.command.occurrences.isEmpty } := by
  refine ⟨fun s => ?_, rfl⟩
  have hjson := map_item?_flagValues (s := .json) (Or.inr (Or.inl rfl))
  have hremote := map_item?_flagValues (s := .remoteCache) (Or.inr (Or.inr rfl))
  cases hc : i.command with
  | resolve json =>
    cases s <;> simp only [Command.occurrences, occurrencesOf_occurrences, reduceCtorEq, if_true,
      if_false, map_item?_occurrences, hjson] <;> rfl
  | validate policies remoteCache json =>
    cases s <;> simp only [Command.occurrences, occurrencesOf_append, occurrencesOf_occurrences,
      reduceCtorEq, if_true, if_false, List.append_nil, List.nil_append, map_item?_occurrences,
      map_item?_choiceValues, hremote, hjson] <;> rfl
  | scan roots json =>
    have hroots := map_item?_pathValues (s := .root) (Or.inr (Or.inr rfl)) (hi.root_ne roots json hc)
    cases s <;> simp only [Command.occurrences, occurrencesOf_append, occurrencesOf_occurrences,
      reduceCtorEq, if_true, if_false, List.append_nil, List.nil_append, map_item?_occurrences,
      hroots, hjson] <;> rfl

/-! ## Other orders -/

theorem mem_occurrencesOf {o : Occurrence} {os : List Occurrence} :
    o ∈ occurrencesOf o.switch os ↔ o ∈ os := by
  simp [occurrencesOf]

namespace Reordered

variable {os os' : List Occurrence}

/-- Reordering keeps the occurrences, each of them. -/
theorem mem_iff (h : Reordered os os') {o : Occurrence} : o ∈ os ↔ o ∈ os' := by
  rw [← mem_occurrencesOf, h, mem_occurrencesOf]

theorem isEmpty_eq (h : Reordered os os') : os.isEmpty = os'.isEmpty := by
  rw [Bool.eq_iff_iff, List.isEmpty_iff, List.isEmpty_iff, List.eq_nil_iff_forall_not_mem,
    List.eq_nil_iff_forall_not_mem]
  simp only [h.mem_iff]

/-- What occurrences give does not depend on the order in which different switches occur. -/
theorem gives (h : Reordered os os') {g : Given} (hg : Gives os' g) : Gives os g where
  items_eq s := by rw [h s, hg.items_eq]
  any_eq := by rw [h.isEmpty_eq, hg.any_eq]

end Reordered

/-! ## Reading back -/

theorem mergeOptions_empty (o : Options) : mergeOptions o {} = o := by
  simp [mergeOptions]

/-- A command is found by its own name. -/
theorem Command.ofName?_name (c : Command) : Subcommand.ofName? c.name = some c.subcommand := by
  cases c <;> rfl

/-- The command that is made of what a command was given is that command again. -/
theorem Command.commandOf_given (c : Command) (b : Bool) :
    commandOf c.subcommand { c.given with any := b } = c := by
  cases c <;> rfl

theorem Command.options_given (c : Command) : c.given.options = {} := by
  cases c <;> rfl

/-- Reading undoes the canonical spelling, in every order that keeps the occurrences of each option. -/
theorem parse_spelling {i : Invocation} (hi : Spellable i) {before after : List Occurrence}
    (hbefore : Reordered before i.options.occurrences)
    (hafter : Reordered after i.command.occurrences) :
    parse (before.map Occurrence.text ++ i.command.name :: after.map Occurrence.text) = .ok i := by
  have hfront : Spelled .top none (before.map Occurrence.text) before :=
    spelled_of_isCanonical fun o ho => hi.isCanonical_options o (hbefore.mem_iff.mp ho)
  have hback : Spelled (.after i.command.subcommand) none (after.map Occurrence.text) after :=
    spelled_of_isCanonical fun o ho => i.command.isCanonical o (hafter.mem_iff.mp ho)
  have hline : Spells none
      (before.map Occurrence.text ++ i.command.name :: (after.map Occurrence.text ++ []))
      ⟨before, i.command.subcommand, after⟩ :=
    .line hfront i.command.ofName?_name hback (Or.inl rfl)
  rw [List.append_nil] at hline
  -- the order of different switches has no part in what they give
  refine (hline.parse_eq_ok_iff i).mpr ⟨_, _,
    Given.acceptAll_eq_ok_iff.mpr (hbefore.gives hi.gives_options),
    Given.acceptAll_eq_ok_iff.mpr (hafter.gives hi.gives_command), ?_⟩
  rw [i.command.commandOf_given]
  show i = { options := mergeOptions i.options i.command.given.options, command := i.command }
  rw [i.command.options_given, mergeOptions_empty]

/-- Values that look like options, have blanks or equals signs in them, or are empty, in a mixed order. -/
theorem parse_spelling_mixed :
    let i : Invocation := {
      options := {
        config := some ⟨"--json"⟩
        project := [("-P", "x = y"), ("k", "")]
        system := [("-D.v", "=")]
        javaHome := some ⟨"/opt/a=b c"⟩
        verbose := true }
      command := .validate [.production, .allBuilds, .production] true true }
    let before : List Occurrence := [⟨.project, some "-P=x = y"⟩, ⟨.verbose, none⟩,
      ⟨.system, some "-D.v=="⟩, ⟨.javaHome, some "/opt/a=b c"⟩, ⟨.project, some "k="⟩,
      ⟨.config, some "--json"⟩]
    let after : List Occurrence := [⟨.policy, some "production"⟩, ⟨.json, none⟩,
      ⟨.policy, some "all-builds"⟩, ⟨.remoteCache, none⟩, ⟨.policy, some "production"⟩]
    Spellable i ∧ Reordered before i.options.occurrences ∧ Reordered after i.command.occurrences ∧
      parse ["-P-P=x = y", "-v", "-D-D.v==", "--java-home=/opt/a=b c", "-Pk=", "--config=--json",
        "validate", "--policy=production", "--json", "--policy=all-builds", "--remote-cache",
        "--policy=production"] = .ok i := by
  intro i before after
  have hi : Spellable i := {
    config_ne := by
      rintro _ ⟨⟩
      decide
    javaHome_ne := by
      rintro _ ⟨⟩
      decide
    name_ok := by decide +kernel
    trim_eq := by decide +kernel
    root_ne := by
      intro roots json
      exact nofun }
  have hbefore : Reordered before i.options.occurrences := by
    intro s
    cases s <;> decide +kernel
  have hafter : Reordered after i.command.occurrences := by
    intro s
    cases s <;> decide +kernel
  have hparse := parse_spelling hi hbefore hafter
  have hspelling : before.map Occurrence.text ++ i.command.name :: after.map Occurrence.text
      = ["-P-P=x = y", "-v", "-D-D.v==", "--java-home=/opt/a=b c", "-Pk=", "--config=--json",
        "validate", "--policy=production", "--json", "--policy=all-builds", "--remote-cache",
        "--policy=production"] := by decide +kernel
  rw [hspelling] at hparse
  exact ⟨hi, hbefore, hafter, hparse⟩

end BuildJdk.CommandLine
