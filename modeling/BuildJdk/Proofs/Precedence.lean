import Mathlib.Data.List.Forall2
import BuildJdk.Config
import BuildJdk.Proofs.LineText
import BuildJdk.Proofs.Trimming
import BuildJdk.Property.Source

/-!
# Which value of a property counts

Two rules meet when a property is looked up. Among the properties of the build the last one given counts, even if
it is blank: it hides the configured one. Between the layers it is the other way round: a blank value counts as
none, and the next layer is asked.

`Bindings.Says` is the first rule and `FirstFilled` the second; `Source.Gives` puts them together for any layers.
Main statement: the value of a property is the first that is not blank of what the build, the system and the
environment say.
-/

namespace BuildJdk

namespace Bindings

variable {b b' : Bindings} {key value : String} {value? : Option String}

/-- What the last binding of a key says: its value, or nothing if the key is not bound. -/
inductive Says (key : String) : Bindings → Option String → Prop
  | last {before after : Bindings} {value : String} : (∀ e ∈ after, e.1 ≠ key) →
      Says key (before ++ (key, value) :: after) (some value)
  | unbound {b : Bindings} : (∀ e ∈ b, e.1 ≠ key) → Says key b none

/-- A key has no value just if nothing is bound to it. -/
theorem get?_eq_none_iff : b.get? key = none ↔ ∀ e ∈ b, e.1 ≠ key := by
  unfold get?
  rw [List.lookup_eq_none_iff]
  constructor
  · intro h e he heq
    have hne := h e (List.mem_reverse.mpr he)
    simp [heq] at hne
  · intro h e he
    have hne := h e (List.mem_reverse.mp he)
    simpa using hne.symm

/-- The last binding of a key gives its value. -/
theorem says_iff : Says key b value? ↔ b.get? key = value? := by
  constructor
  · intro h
    cases h with
    | last hafter => exact get?_eq_some_iff.mpr ⟨_, _, rfl, hafter⟩
    | unbound hnone => exact get?_eq_none_iff.mpr hnone
  · rintro rfl
    cases hget : b.get? key with
    | none => exact .unbound (get?_eq_none_iff.mp hget)
    | some value =>
      obtain ⟨before, after, rfl, hafter⟩ := get?_eq_some_iff.mp hget
      exact .last hafter

/-- Of two lists of bindings the second overrides the first. -/
theorem get?_append : get? (b ++ b') key = (b'.get? key).or (b.get? key) := by
  unfold get?
  rw [List.reverse_append, List.lookup_append]

/-- Only the bindings of the key matter. -/
theorem get?_filter : get? (b.filter (·.1 = key)) key = b.get? key := by
  unfold get?
  rw [← List.filter_reverse]
  induction b.reverse with
  | nil => rfl
  | cons e rest ih =>
    by_cases he : e.1 = key
    · rw [List.filter_cons_of_pos (by simpa using he), List.lookup_cons, List.lookup_cons, ih]
    · have hne : (key == e.1) = false := by simpa using fun h => he h.symm
      rw [List.filter_cons_of_neg (by simpa using he), List.lookup_cons, hne, ih]

theorem get?_eq_of_filter_eq (h : b.filter (·.1 = key) = b'.filter (·.1 = key)) :
    b.get? key = b'.get? key := by
  rw [← get?_filter, h, get?_filter]

end Bindings

namespace Property

open Text

/-- No value, or a blank one. -/
def IsUnset (value? : Option String) : Prop := ∀ value, value? = some value → isAllBlank value = true

/-- The first of some values that is neither missing nor blank, if there is one. -/
inductive FirstFilled : List (Option String) → Option String → Prop
  | none : FirstFilled [] none
  | here {value : String} {rest : List (Option String)} : isAllBlank value = false →
      FirstFilled (some value :: rest) (some value)
  | next {value? : Option String} {rest : List (Option String)} {r : Option String} :
      IsUnset value? → FirstFilled rest r → FirstFilled (value? :: rest) r

/-- What a layer says of a key: a table says what its last binding of the key says, and the environment what its
variables say. -/
inductive Layer.Says (m : Machine) (key : String) : Layer → Option String → Prop
  | table {b : Bindings} {value? : Option String} : b.Says key value? → Says m key (.table b) value?
  | environment {value? : Option String} : m.environment.Says key value? → Says m key .environment value?

/-- The value that layers give to a key: the first that is not blank of what they say, one after the other. -/
def Source.Gives (m : Machine) (source : Source) (key : String) (r : Option String) : Prop :=
  ∃ values, List.Forall₂ (Layer.Says m key) source values ∧ FirstFilled values r

theorem Layer.says_iff {m : Machine} {key : String} {layer : Layer} {value? : Option String} :
    Layer.Says m key layer value? ↔ layer.get? m key = value? := by
  constructor
  · rintro (htold | htold)
    · exact Bindings.says_iff.mp htold
    · exact Bindings.says_iff.mp htold
  · intro h
    cases layer with
    | table b => exact .table (Bindings.says_iff.mpr h)
    | environment => exact .environment (Bindings.says_iff.mpr h)

namespace Source

variable {m : Machine} {key : String} {layer : Layer} {before after source : Source}

theorem get?_cons_of_isUnset (h : IsUnset (layer.get? m key)) :
    get? m (layer :: after) key = get? m after key := by
  unfold get?
  cases hvalue : layer.get? m key with
  | none => rw [List.filterMap_cons_none hvalue]
  | some value =>
    rw [List.filterMap_cons_some hvalue, List.find?_cons_of_neg (by simp [h value hvalue])]

theorem get?_cons_of_filled {value : String} (hvalue : layer.get? m key = some value)
    (hfilled : isAllBlank value = false) : get? m (layer :: after) key = some value := by
  unfold get?
  rw [List.filterMap_cons_some hvalue, List.find?_cons_of_pos (by simp [hfilled])]

/-- A layer without a value, or with a blank one, hides no other layer. -/
theorem get?_of_isUnset (h : IsUnset (layer.get? m key)) :
    get? m (before ++ layer :: after) key = get? m (before ++ after) key := by
  have hrest : get? m (layer :: after) key = get? m after key := get?_cons_of_isUnset h
  unfold get? at hrest ⊢
  rw [List.filterMap_append, List.filterMap_append, List.find?_append, List.find?_append, hrest]

/-- No value that is looked up is blank. -/
theorem isAllBlank_of_get? {value : String} (h : get? m source key = some value) :
    isAllBlank value = false := by
  have hfound := List.find?_some h
  simpa using hfound

/-- A property has the first value that is not blank in the order of the layers. -/
theorem firstFilled_iff {r : Option String} :
    FirstFilled (source.map (Layer.get? m key)) r ↔ get? m source key = r := by
  induction source generalizing r with
  | nil =>
    constructor
    · intro h
      cases h
      rfl
    · rintro rfl
      exact .none
  | cons layer rest ih =>
    rw [List.map_cons]
    have hskip : IsUnset (layer.get? m key) → get? m (layer :: rest) key = get? m rest key :=
      get?_cons_of_isUnset
    constructor
    · intro h
      generalize hvalue : layer.get? m key = value? at h hskip
      cases h with
      | here hfilled => exact get?_cons_of_filled hvalue hfilled
      | next hunset hrest => rw [hskip hunset, ih.mp hrest]
    · rintro rfl
      by_cases hunset : IsUnset (layer.get? m key)
      · rw [hskip hunset]
        exact .next hunset (ih.mpr rfl)
      · simp only [IsUnset, not_forall, Bool.not_eq_true] at hunset
        obtain ⟨value, hvalue, hfilled⟩ := hunset
        rw [get?_cons_of_filled hvalue hfilled, hvalue]
        exact .here hfilled

/-- What the layers say is what is looked up in each of them. -/
theorem forall₂_says_iff {values : List (Option String)} :
    List.Forall₂ (Layer.Says m key) source values ↔ source.map (Layer.get? m key) = values := by
  have htold : Layer.Says m key = fun layer value? => layer.get? m key = value? :=
    funext₂ fun _ _ => propext Layer.says_iff
  rw [htold, ← List.forall₂_eq_eq_eq, List.forall₂_map_left_iff]

/-- The value that is looked up is the one that the layers give. -/
theorem gives_iff {r : Option String} : source.Gives m key r ↔ get? m source key = r := by
  unfold Gives
  simp only [forall₂_says_iff, exists_eq_left', firstFilled_iff]

/-- The value of a property depends on what each layer says of it. -/
theorem get?_congr {m' : Machine} {source' : Source}
    (h : source.map (Layer.get? m key) = source'.map (Layer.get? m' key)) :
    get? m source key = get? m' source' key := by
  have hfirst := firstFilled_iff.mpr (rfl : get? m' source' key = _)
  rw [← h] at hfirst
  exact firstFilled_iff.mp hfirst

/-- A property has the first value that is not blank of what the build, the system and the environment say of it.
The last property given to the build counts if there is one, also if it is blank, and else the configured one.
So the value is never blank; what is configured does not matter once the property is given; a layer with a blank
value, or with none, could as well be missing; and bindings of other keys do not matter. -/
theorem standard_precedence (c : Config) (given system : Bindings) (m : Machine) (key : String) :
    (∀ r, (standard (c.buildProperties given) system).get? m key = r ↔
      ∃ g f s e, given.Says key g ∧ c.properties.Says key f ∧ system.Says key s ∧
        m.environment.Says key e ∧ FirstFilled [g.or f, s, e] r) ∧
    (∀ value, (standard (c.buildProperties given) system).get? m key = some value →
      isAllBlank value = false) ∧
    (∀ c' : Config, (∃ e ∈ given, e.1 = key) →
      (standard (c.buildProperties given) system).get? m key
        = (standard (c'.buildProperties given) system).get? m key) ∧
    (∀ before layer after, standard (c.buildProperties given) system = before ++ layer :: after →
      IsUnset (layer.get? m key) → (standard (c.buildProperties given) system).get? m key
        = get? m (before ++ after) key) ∧
    ∀ (c' : Config) (given' system' : Bindings) (m' : Machine),
      c.properties.filter (·.1 = key) = c'.properties.filter (·.1 = key) →
      given.filter (·.1 = key) = given'.filter (·.1 = key) →
      system.filter (·.1 = key) = system'.filter (·.1 = key) →
      m.environment.filter (·.1 = key) = m'.environment.filter (·.1 = key) →
      (standard (c.buildProperties given) system).get? m key
        = (standard (c'.buildProperties given') system').get? m' key := by
  have hlayers : ∀ (c : Config) (given system : Bindings) (m : Machine),
      (standard (c.buildProperties given) system).map (Layer.get? m key)
        = [(given.get? key).or (c.properties.get? key), system.get? key, m.environment.get? key] := by
    intro c given system m
    have hbuild : Bindings.get? (c.buildProperties given) key
        = (given.get? key).or (c.properties.get? key) := Bindings.get?_append
    simp [standard, Layer.get?, hbuild, Machine.variableValue?]
  refine ⟨fun r => ?_, fun value => isAllBlank_of_get?, ?_, ?_, ?_⟩
  · rw [← firstFilled_iff, hlayers]
    simp only [Bindings.says_iff]
    constructor
    · intro h
      exact ⟨_, _, _, _, rfl, rfl, rfl, rfl, h⟩
    · rintro ⟨_, _, _, _, rfl, rfl, rfl, rfl, h⟩
      exact h
  · rintro c' ⟨e, he, hkey⟩
    -- the key is given, so what is configured for it does not come up
    have hgiven : given.get? key ≠ none := fun hnone =>
      Bindings.get?_eq_none_iff.mp hnone e he hkey
    obtain ⟨value, hvalue⟩ := Option.ne_none_iff_exists'.mp hgiven
    apply get?_congr
    rw [hlayers, hlayers, hvalue, Option.some_or, Option.some_or]
  · intro before layer after hsplit hunset
    rw [hsplit]
    exact get?_of_isUnset hunset
  · intro c' given' system' m' hconfig hgiven hsystem henvironment
    apply get?_congr
    rw [hlayers, hlayers, Bindings.get?_eq_of_filter_eq hconfig, Bindings.get?_eq_of_filter_eq hgiven,
      Bindings.get?_eq_of_filter_eq hsystem, Bindings.get?_eq_of_filter_eq henvironment]

/-- A property given twice, the second time blank, and blank for the system: the environment decides. -/
theorem standard_precedence_blank :
    let c : Config := { properties := [("java9Home", "/configured")] }
    let given := [("java9Home", "/given"), ("testJavaHome", "/t"), ("java9Home", " ")]
    let system := [("java9Home", "")]
    let m : Machine := {
      files := .empty, workingDirectory := [], environment := [("java9Home", "/environment")]
      accountHome := none }
    (standard (c.buildProperties given) system).get? m "java9Home" = some "/environment" := by
  intro c given system m
  refine ((standard_precedence c given system m "java9Home").1 _).mpr
    ⟨some " ", some "/configured", some "", some "/environment", ?_, ?_, ?_, ?_, ?_⟩
  · exact Bindings.says_iff.mpr (by decide)
  · exact Bindings.says_iff.mpr (by decide)
  · exact Bindings.says_iff.mpr (by decide)
  · exact Bindings.says_iff.mpr (by decide)
  · have hblank : IsUnset (some " ") ∧ IsUnset (some "") := by simp [IsUnset]; decide
    exact .next hblank.1 (.next hblank.2 (.here (by decide)))

end Source

end Property

end BuildJdk
