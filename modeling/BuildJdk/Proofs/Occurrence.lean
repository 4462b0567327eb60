import BuildJdk.CommandLine.Parser
import Mathlib.Data.List.Induction

/-!
# Occurrences of options

An option occurs on a command line with a value or without one. Each occurrence that is accepted gives one
item, and the items of an option are kept in the order of its occurrences.

So what a level gives is known from the occurrences of each option alone. Main statement: occurrences are
accepted just if they give the items of what they are accepted as, and in which order the occurrences of
different options come does not matter.
-/

namespace BuildJdk.CommandLine

/-- An option as it occurs on a command line. -/
structure Occurrence where
  switch : Switch
  value : Option String
  deriving DecidableEq, Repr

/-- What an occurrence of an option gives. -/
inductive Item where
  | path (p : Path)
  | property (pair : String × String)
  | choice (c : PolicyChoice)
  /-- The option is there. -/
  | present
  deriving DecidableEq, Repr

namespace Switch

/-- Whether the option may be given more than once at a level. -/
def isRepeatable : Switch → Bool
  | project | system | policy | root => true
  | config | javaHome | verbose | help | version | json | remoteCache => false

/-- The item that a value of the option gives, or the option alone. -/
def item? (s : Switch) (value : Option String) : Option Item :=
  match s, value with
  | config, some v | javaHome, some v | root, some v => (Given.path v).toOption.map .path
  | project, some v | system, some v => (Given.property v).toOption.map .property
  | policy, some v => (PolicyChoice.ofName? v).map .choice
  | verbose, none | json, none | remoteCache, none => some .present
  | _, _ => none

end Switch

namespace Given

/-- The item of a flag that is given. -/
def flagItems (b : Bool) : List Item := if b then [.present] else []

/-- The items of an option. -/
def items (g : Given) : Switch → List Item
  | .config => g.options.config.toList.map .path
  | .javaHome => g.options.javaHome.toList.map .path
  | .project => g.options.project.map .property
  | .system => g.options.system.map .property
  | .verbose => flagItems g.options.verbose
  | .json => flagItems g.json
  | .remoteCache => flagItems g.remoteCache
  | .policy => g.policies.map .choice
  | .root => g.roots.map .path
  | .help | .version => []

/-- Accepts occurrences of options, one after the other. -/
def acceptAll (g : Given) (os : List Occurrence) : Except UsageError Given :=
  os.foldlM (fun g o => g.accept o.switch o.value) g

end Given

/-- The occurrences of one option, in order. -/
def occurrencesOf (s : Switch) (os : List Occurrence) : List Occurrence :=
  os.filter fun o => o.switch = s

/-- Occurrences of a switch are taken in the order of the arguments. -/
theorem occurrencesOf_append (s : Switch) (os os' : List Occurrence) :
    occurrencesOf s (os ++ os') = occurrencesOf s os ++ occurrencesOf s os' :=
  List.filter_append os os'

theorem occurrencesOf_concat (s : Switch) (os : List Occurrence) (o : Occurrence) :
    occurrencesOf s (os ++ [o])
      = if o.switch = s then occurrencesOf s os ++ [o] else occurrencesOf s os := by
  rw [occurrencesOf_append]
  unfold occurrencesOf
  by_cases h : o.switch = s
  · rw [if_pos h, List.filter_cons_of_pos (by simpa using h), List.filter_nil]
  · rw [if_neg h, List.filter_cons_of_neg (by simpa using h), List.filter_nil, List.append_nil]

/-- What occurrences give: the items of each option come from its occurrences, in order. -/
structure Gives (os : List Occurrence) (g : Given) : Prop where
  items_eq : ∀ s, (occurrencesOf s os).map (fun o => s.item? o.value) = (g.items s).map some
  any_eq : g.any = !os.isEmpty

namespace Given

/-! ## Items -/

theorem flagItems_injective {a b : Bool} (h : flagItems a = flagItems b) : a = b := by
  cases a <;> cases b <;> simp_all [flagItems]

theorem toList_injective {α : Type} {a b : Option α} (h : a.toList = b.toList) : a = b := by
  cases a <;> cases b <;> simp_all

/-- Two levels that give the same items give the same. -/
theorem ext_items {g g' : Given} (hany : g.any = g'.any) (h : ∀ s, g.items s = g'.items s) :
    g = g' := by
  obtain ⟨⟨config, project, system, javaHome, verbose⟩, json, policies, remoteCache, roots, any⟩ := g
  obtain ⟨⟨config', project', system', javaHome', verbose'⟩, json', policies', remoteCache', roots',
    any'⟩ := g'
  have hpath : ∀ p q, Item.path p = Item.path q → p = q := fun _ _ => Item.path.inj
  have hpair : ∀ p q, Item.property p = Item.property q → p = q := fun _ _ => Item.property.inj
  have hchoice : ∀ c d, Item.choice c = Item.choice d → c = d := fun _ _ => Item.choice.inj
  have hconfig : config = config' := toList_injective ((List.map_inj_right hpath).mp (h .config))
  have hjavaHome : javaHome = javaHome' :=
    toList_injective ((List.map_inj_right hpath).mp (h .javaHome))
  have hproject : project = project' := (List.map_inj_right hpair).mp (h .project)
  have hsystem : system = system' := (List.map_inj_right hpair).mp (h .system)
  have hpolicies : policies = policies' := (List.map_inj_right hchoice).mp (h .policy)
  have hroots : roots = roots' := (List.map_inj_right hpath).mp (h .root)
  have hverbose : verbose = verbose' := flagItems_injective (h .verbose)
  have hjson : json = json' := flagItems_injective (h .json)
  have hremote : remoteCache = remoteCache' := flagItems_injective (h .remoteCache)
  subst hconfig hjavaHome hproject hsystem hpolicies hroots hverbose hjson hremote
  obtain rfl : any = any' := hany
  rfl

/-- An option that is not repeatable gives one item at most. -/
theorem length_items_le {s : Switch} (hs : s.isRepeatable = false) (g : Given) :
    (g.items s).length ≤ 1 := by
  have hflag : ∀ b, (flagItems b).length ≤ 1 := by decide
  have hoption : ∀ p : Option Path, (p.toList.map Item.path).length ≤ 1 := by
    intro p
    cases p <;> simp
  cases s with
  | config | javaHome => exact hoption _
  | verbose | json | remoteCache => exact hflag _
  | help | version => exact Nat.zero_le 1
  | project | system | policy | root => cases hs

/-! ## One occurrence -/

/-- One more item of an option. -/
structure Adds (g : Given) (s : Switch) (x : Item) (g' : Given) : Prop where
  any_eq : g'.any = true
  items_eq : ∀ s', g'.items s' = if s = s' then g.items s' ++ [x] else g.items s'

/-- A guard lets through what it does not turn down. -/
theorem ok_unless_iff {α : Type} {c : Prop} [Decidable c] {e : UsageError}
    {x : Except UsageError α} {a : α} : (if c then .error e else x) = .ok a ↔ ¬c ∧ x = .ok a := by
  by_cases hc : c <;> simp [hc]

theorem ok_bind_iff {α β : Type} {x : Except UsageError α} {k : α → Except UsageError β} {b : β} :
    (x >>= k) = .ok b ↔ ∃ a, x = .ok a ∧ k a = .ok b := by
  cases x with
  | error e => exact ⟨nofun, fun ⟨_, h, _⟩ => nomatch h⟩
  | ok a => exact ⟨fun h => ⟨a, rfl, h⟩, fun ⟨_, rfl, h⟩ => h⟩

/-- A flag that is accepted adds its item and nothing else. -/
theorem adds_of_acceptFlag {g g' : Given} {s : Switch} (h : g.acceptFlag s = .ok g') :
    s.item? none = some .present ∧ Adds g s .present g' := by
  cases s with
  | verbose | json | remoteCache =>
    obtain ⟨hnot, ⟨⟩⟩ := ok_unless_iff.mp h
    refine ⟨rfl, rfl, fun s' => ?_⟩
    cases s' <;> simp [items, hnot, flagItems]
  | _ => cases h

/-- A value that is accepted adds its item and nothing else. -/
theorem adds_of_acceptValue {g g' : Given} {s : Switch} {value : String}
    (h : g.acceptValue value s = .ok g') : ∃ x, s.item? (some value) = some x ∧ Adds g s x g' := by
  -- only the items of the switch itself change, and those of a switch that is given once were none
  cases s with
  | config | javaHome =>
    obtain ⟨hnot, hrest⟩ := ok_unless_iff.mp h
    obtain ⟨p, hp, ⟨⟩⟩ := ok_bind_iff.mp hrest
    refine ⟨.path p, by simp [Switch.item?, hp, Except.toOption], rfl, fun s' => ?_⟩
    cases s' <;> simp_all [items]
  | project | system =>
    obtain ⟨pair, hpair, ⟨⟩⟩ := ok_bind_iff.mp h
    refine ⟨.property pair, by simp [Switch.item?, hpair, Except.toOption], rfl, fun s' => ?_⟩
    cases s' <;> simp [items]
  | root =>
    obtain ⟨p, hp, ⟨⟩⟩ := ok_bind_iff.mp h
    refine ⟨.path p, by simp [Switch.item?, hp, Except.toOption], rfl, fun s' => ?_⟩
    cases s' <;> simp [items]
  | policy =>
    simp only [acceptValue] at h
    split at h
    · next choice hchoice =>
      cases h
      refine ⟨.choice choice, by simp [Switch.item?, hchoice], rfl, fun s' => ?_⟩
      cases s' <;> simp [items]
    · cases h
  | _ => cases h

/-- An occurrence that is accepted adds the item that it stands for. -/
theorem adds_of_accept {g g' : Given} {s : Switch} {value : Option String}
    (h : g.accept s value = .ok g') : ∃ x, s.item? value = some x ∧ Adds g s x g' := by
  cases value with
  | none => exact ⟨.present, adds_of_acceptFlag h⟩
  | some value => exact adds_of_acceptValue h

theorem exists_ok_of_toOption {α β : Type} {x : Except UsageError α} {f : α → β} {b : β}
    (h : x.toOption.map f = some b) : ∃ a, x = .ok a := by
  cases x with
  | error e => cases h
  | ok a => exact ⟨a, rfl⟩

/-- A flag is accepted where it was not given before. -/
theorem exists_acceptFlag {g : Given} {s : Switch} {x : Item} (hitem : s.item? none = some x)
    (hs : g.items s = []) : ∃ g', g.acceptFlag s = .ok g' := by
  have hfree : ∀ {b : Bool}, flagItems b = [] → ¬ b = true := by decide
  cases s with
  | verbose | json | remoteCache => exact ⟨_, ok_unless_iff.mpr ⟨hfree hs, rfl⟩⟩
  | _ => cases hitem

/-- A value is accepted where its switch is repeatable or was not given before. -/
theorem exists_acceptValue {g : Given} {s : Switch} {value : String} {x : Item}
    (hitem : s.item? (some value) = some x) (hs : s.isRepeatable = true ∨ g.items s = []) :
    ∃ g', g.acceptValue value s = .ok g' := by
  have hfree : ∀ {p : Option Path}, p.toList.map Item.path = [] → ¬ p.isSome = true := by
    intro p
    cases p <;> simp
  cases s with
  | config | javaHome =>
    obtain ⟨p, hp⟩ := exists_ok_of_toOption hitem
    have hnone := hs.resolve_left nofun
    exact ⟨_, ok_unless_iff.mpr ⟨hfree hnone, ok_bind_iff.mpr ⟨p, hp, rfl⟩⟩⟩
  | project | system | root =>
    obtain ⟨a, ha⟩ := exists_ok_of_toOption hitem
    exact ⟨_, ok_bind_iff.mpr ⟨a, ha, rfl⟩⟩
  | policy =>
    obtain ⟨choice, hchoice, -⟩ := Option.map_eq_some_iff.mp hitem
    simp only [acceptValue, hchoice]
    exact ⟨_, rfl⟩
  | _ => cases hitem

/-- No flag is repeatable. -/
theorem isRepeatable_eq_false_of_flag {s : Switch} {x : Item} (h : s.item? none = some x) :
    s.isRepeatable = false := by
  cases s <;> first | rfl | cases h

/-- An item is accepted unless it is the second one of an option that is not repeatable. -/
theorem exists_accept {g : Given} {s : Switch} {value : Option String} {x : Item}
    (hitem : s.item? value = some x) (hs : s.isRepeatable = true ∨ g.items s = []) :
    ∃ g', g.accept s value = .ok g' := by
  cases value with
  | some value => exact exists_acceptValue hitem hs
  | none =>
    have hflag := isRepeatable_eq_false_of_flag hitem
    refine exists_acceptFlag hitem (hs.resolve_left ?_)
    simp [hflag]

/-! ## All occurrences of a level -/

/-- Occurrences are accepted one list after the other. -/
theorem acceptAll_append (g : Given) (os os' : List Occurrence) :
    g.acceptAll (os ++ os') = g.acceptAll os >>= (acceptAll · os') :=
  List.foldlM_append

theorem acceptAll_concat_eq_ok_iff {g g' : Given} {os : List Occurrence} {o : Occurrence} :
    g.acceptAll (os ++ [o]) = .ok g' ↔
      ∃ g₁, g.acceptAll os = .ok g₁ ∧ g₁.accept o.switch o.value = .ok g' := by
  rw [acceptAll_append, ok_bind_iff]
  unfold acceptAll
  simp only [List.foldlM_cons, List.foldlM_nil, bind_pure]

/-- Accepted occurrences give the items of what they are accepted as. -/
theorem gives_of_acceptAll {os : List Occurrence} {g : Given} (h : acceptAll {} os = .ok g) :
    Gives os g := by
  induction os using List.reverseRecOn generalizing g with
  | nil =>
    cases h
    refine ⟨fun s => ?_, rfl⟩
    cases s <;> rfl
  | append_singleton os o ih =>
    obtain ⟨g₁, hos, ho⟩ := acceptAll_concat_eq_ok_iff.mp h
    obtain ⟨x, hitem, hadds⟩ := adds_of_accept ho
    refine ⟨fun s => ?_, by rw [hadds.any_eq]; simp⟩
    rw [hadds.items_eq, occurrencesOf_concat]
    by_cases hs : o.switch = s
    · subst hs
      rw [if_pos rfl, if_pos rfl, List.map_append, List.map_append, (ih hos).items_eq]
      simp [hitem]
    · rw [if_neg hs, if_neg hs, (ih hos).items_eq]

/-- The items of each option are the first ones that another level gives. -/
def IsFront (os : List Occurrence) (g : Given) : Prop :=
  ∀ s, ∃ rest, (occurrencesOf s os).map (fun o => s.item? o.value) ++ rest = (g.items s).map some

/-- What is a front with an occurrence more is one without it. -/
theorem IsFront.of_concat {os : List Occurrence} {o : Occurrence} {g : Given}
    (h : IsFront (os ++ [o]) g) : IsFront os g := by
  intro s
  obtain ⟨rest, hrest⟩ := h s
  rw [occurrencesOf_concat] at hrest
  by_cases hs : o.switch = s
  · rw [if_pos hs, List.map_append, List.append_assoc] at hrest
    exact ⟨_, hrest⟩
  · rw [if_neg hs] at hrest
    exact ⟨rest, hrest⟩

/-- Occurrences that stand for a front of what is given are all accepted. -/
theorem exists_acceptAll {os : List Occurrence} {g : Given} (h : IsFront os g) :
    ∃ g', acceptAll {} os = .ok g' := by
  induction os using List.reverseRecOn with
  | nil => exact ⟨_, rfl⟩
  | append_singleton os o ih =>
    obtain ⟨g₁, hos⟩ := ih h.of_concat
    have hgives := (gives_of_acceptAll hos).items_eq o.switch
    obtain ⟨rest, hrest⟩ := h o.switch
    rw [occurrencesOf_concat, if_pos rfl, List.map_append, hgives, List.map_singleton,
      List.append_assoc] at hrest
    obtain ⟨x, -, hitem⟩ : ∃ x ∈ g.items o.switch, some x = o.switch.item? o.value := by
      rw [← List.mem_map, ← hrest]
      simp
    have hfree : o.switch.isRepeatable = true ∨ g₁.items o.switch = [] := by
      cases hs : o.switch.isRepeatable with
      | true => exact Or.inl rfl
      | false =>
        -- there is room for one item, and it is that of `o`
        have hle := length_items_le hs g
        have hlength := congrArg List.length hrest
        simp only [List.length_append, List.length_map, List.length_singleton] at hlength
        exact Or.inr (List.eq_nil_of_length_eq_zero (by omega))
    obtain ⟨g', ho⟩ := exists_accept hitem.symm hfree
    exact ⟨g', acceptAll_concat_eq_ok_iff.mpr ⟨g₁, hos, ho⟩⟩

/-- Occurrences are accepted just if they give the items of what they are accepted as. -/
theorem acceptAll_eq_ok_iff {os : List Occurrence} {g : Given} :
    acceptAll {} os = .ok g ↔ Gives os g := by
  refine ⟨gives_of_acceptAll, fun h => ?_⟩
  obtain ⟨g', hg'⟩ := exists_acceptAll fun s => ⟨[], by rw [List.append_nil, h.items_eq]⟩
  have hgives := gives_of_acceptAll hg'
  have hitems : ∀ s, g'.items s = g.items s := by
    intro s
    refine (List.map_inj_right fun _ _ => Option.some.inj).mp ?_
    rw [← hgives.items_eq, h.items_eq]
  rw [hg', ext_items (hgives.any_eq.trans h.any_eq.symm) hitems]

end Given

end BuildJdk.CommandLine
