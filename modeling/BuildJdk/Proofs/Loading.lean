import BuildJdk.Config
import BuildJdk.Proofs.Utf8

/-!
# Loading a configuration

A file that is named has to be there, and one that is only looked for does not. In either case it has to be the
UTF-8 of a document with settings of the right kinds, if it is there.

Each setting of a document has its own key, and its own default where the key or the whole section is missing.
That is said here of documents whose sections are tables, as far as there are any.

Main statement: a load fails for the configuration only, and says for which path; and what it gives is, setting
by setting, what the keys of the document say.
-/

namespace BuildJdk

/-- The file at a path is the UTF-8 of a text. -/
def Machine.HoldsText (m : Machine) (path : Path) (text : String) : Prop :=
  ∃ l bytes x, m.find path = .ok (l, .file bytes x) ∧ bytes.toByteArray = text.toUTF8

/-- A text is read just if the path leads to a file that holds its bytes. -/
theorem Machine.readText_eq_ok_iff {m : Machine} {path : Path} {text : String} :
    m.readText path = .ok text ↔ m.HoldsText path text := by
  unfold readText HoldsText
  simp only [← Text.Utf8.decode?_eq_some_iff]
  constructor
  · intro h
    split at h
    · cases h
    · next l bytes x hfind =>
      cases hdecode : Text.Utf8.decode? bytes with
      | none =>
        rw [hdecode] at h
        cases h
      | some s =>
        rw [hdecode] at h
        cases h
        exact ⟨l, bytes, x, hfind, hdecode⟩
    · cases h
  · rintro ⟨l, bytes, x, hfind, hdecode⟩
    simp only [hfind, hdecode]

theorem Machine.HoldsText.pathExists {m : Machine} {path : Path} {text : String}
    (h : m.HoldsText path text) : m.pathExists path = true := by
  obtain ⟨l, bytes, x, hfind, -⟩ := h
  unfold Machine.pathExists
  rw [hfind]

/-- A failure that is about the configuration. -/
def Failure.OfConfig : Failure → Prop
  | .config _ _ | .noUserHome => True
  | _ => False

namespace Config

open Toml (Value)

/-! ## Finding the file -/

/-- What a load makes of the file at a path. -/
structure LoadsFile (m : Machine) (path : Path) (r : Except Failure Config) : Prop where
  ok_iff : ∀ c, r = .ok c ↔ ∃ text, m.HoldsText path text ∧ parse? text = some c
  missing : m.pathExists path = false → r = .error (.config path .missing)
  unreadable : m.pathExists path = true → (∀ text, ¬ m.HoldsText path text) →
    ∃ e, r = .error (.config path (.unreadable e))
  malformed : ∀ text, m.HoldsText path text → parse? text = none →
    r = .error (.config path .malformed)
  /-- A failure names the path. -/
  names : ∀ e, r = .error e → ∃ cause, e = .config path cause ∧
    path.text.toList <:+: e.message.toList

/-- What a load makes of the file in the user's home, which need not be there. -/
structure LoadsDefault (m : Machine) (r : Except Failure Config) : Prop where
  absent : ∀ path, defaultPath m = .ok path → m.pathExists path = false → r = .ok {}
  present : ∀ path, defaultPath m = .ok path → m.pathExists path = true → LoadsFile m path r
  homeless : ∀ e, defaultPath m = .error e → r = .error .noUserHome

theorem infix_message (path : Path) (cause : ConfigCause) :
    path.text.toList <:+: (Failure.config path cause).message.toList := by
  refine ⟨"Configuration error: cannot load ".toList, ": ".toList ++ cause.text.toList, ?_⟩
  unfold Failure.message
  rw [String.toList_append, String.toList_append, String.toList_append]
  exact (List.append_assoc _ _ _).symm

/-- A file that was named and is not there is a failure. -/
theorem load_of_missing {m : Machine} {path : Path} (h : m.pathExists path = false) :
    load m (some path) = .error (.config path .missing) := by
  unfold load
  simp only [h]
  rfl

theorem load_of_exists {m : Machine} {path : Path} (h : m.pathExists path = true) :
    load m (some path) = read m path := if_pos h

/-- A file that is there and holds no text is a failure, which tells why. -/
theorem load_of_no_text {m : Machine} {path : Path} (hexists : m.pathExists path = true)
    (h : ∀ text, ¬ m.HoldsText path text) :
    ∃ e, load m (some path) = .error (.config path (.unreadable e)) := by
  rw [load_of_exists hexists]
  unfold read
  cases htext : m.readText path with
  | error e => exact ⟨e, rfl⟩
  | ok text => exact absurd (Machine.readText_eq_ok_iff.mp htext) (h text)

/-- A file whose text is no configuration is a failure. -/
theorem load_of_malformed {m : Machine} {path : Path} {text : String} (h : m.HoldsText path text)
    (hparse : parse? text = none) : load m (some path) = .error (.config path .malformed) := by
  rw [load_of_exists h.pathExists]
  unfold read
  simp only [Machine.readText_eq_ok_iff.mpr h, hparse]

theorem load_of_parsed {m : Machine} {path : Path} {text : String} (h : m.HoldsText path text)
    {c : Config} (hparse : parse? text = some c) : load m (some path) = .ok c := by
  rw [load_of_exists h.pathExists]
  unfold read
  simp only [Machine.readText_eq_ok_iff.mpr h, hparse]

/-- A load of a named file gives what its text says, or fails for its path. -/
theorem load_named_cases (m : Machine) (path : Path) :
    (∃ text c, m.HoldsText path text ∧ parse? text = some c ∧ load m (some path) = .ok c) ∨
      ∃ cause, load m (some path) = .error (.config path cause) := by
  by_cases htext : ∃ text, m.HoldsText path text
  · obtain ⟨text, h⟩ := htext
    cases hparse : parse? text with
    | none => exact Or.inr ⟨_, load_of_malformed h hparse⟩
    | some c => exact Or.inl ⟨text, c, h, hparse, load_of_parsed h hparse⟩
  · cases hexists : m.pathExists path with
    | false => exact Or.inr ⟨_, load_of_missing hexists⟩
    | true =>
      obtain ⟨e, he⟩ := load_of_no_text hexists fun text h => htext ⟨text, h⟩
      exact Or.inr ⟨_, he⟩

theorem loadsFile_load (m : Machine) (path : Path) : LoadsFile m path (load m (some path)) where
  ok_iff c := by
    constructor
    · intro hload
      rcases load_named_cases m path with ⟨text, c', h, hparse, hc⟩ | ⟨cause, he⟩
      · rw [hload] at hc
        cases hc
        exact ⟨text, h, hparse⟩
      · rw [hload] at he
        cases he
    · rintro ⟨text, h, hparse⟩
      exact load_of_parsed h hparse
  missing := load_of_missing
  unreadable := load_of_no_text
  malformed _ := load_of_malformed
  names e hload := by
    rcases load_named_cases m path with ⟨text, c, -, -, hc⟩ | ⟨cause, he⟩
    · rw [hload] at hc
      cases hc
    · rw [hload] at he
      cases he
      exact ⟨cause, rfl, infix_message path cause⟩

/-- The default file is loaded like one that was named, but need not be there. -/
theorem load_default {m : Machine} {path : Path} (h : defaultPath m = .ok path) :
    load m none = if m.pathExists path then load m (some path) else .ok {} := by
  have hload : load m none = if m.pathExists path then read m path else .ok {} := by
    unfold load
    rw [h]
    rfl
  rw [hload]
  split
  · next hexists => rw [load_of_exists hexists]
  · rfl

theorem load_of_homeless {m : Machine} {e : Failure} (h : defaultPath m = .error e) :
    load m none = .error .noUserHome := by
  unfold load
  unfold defaultPath at h ⊢
  cases hhome : m.userHome? with
  | none => rfl
  | some home =>
    rw [hhome] at h
    cases h

theorem loadsDefault_load (m : Machine) : LoadsDefault m (load m none) where
  absent path h hexists := by
    rw [load_default h, hexists]
    rfl
  present path h hexists := by
    rw [load_default h, if_pos hexists]
    exact loadsFile_load m path
  homeless _ := load_of_homeless

/-- Loading fails because of the configuration only. -/
theorem ofConfig_of_load {m : Machine} {named : Option Path} {e : Failure}
    (h : load m named = .error e) : e.OfConfig := by
  have hnamed : ∀ path, load m (some path) = .error e → e.OfConfig := by
    intro path hload
    obtain ⟨cause, rfl, -⟩ := (loadsFile_load m path).names e hload
    trivial
  cases named with
  | some path => exact hnamed path h
  | none =>
    cases hpath : defaultPath m with
    | error e' =>
      rw [load_of_homeless hpath] at h
      cases h
      trivial
    | ok path =>
      rw [load_default hpath] at h
      split at h
      · exact hnamed path h
      · cases h

/-! ## Settings by their keys -/

/-- Whether a value is a table. -/
def isTable : Value → Bool
  | .table _ => true
  | _ => false

/-- The sections of a document are tables, as far as there are any. -/
def SectionsAreTables (es : List (String × Value)) : Prop :=
  ∀ name ∈ ["properties", "policy", "build_cache"], (es.lookup name).all isTable = true

instance (es : List (String × Value)) : Decidable (SectionsAreTables es) :=
  inferInstanceAs (Decidable (∀ _ ∈ _, _))

/-- The entries of a section, of which there are none if it is missing. -/
def sectionEntries (es : List (String × Value)) (name : String) : List (String × Value) :=
  match es.lookup name with
  | some (.table entries) => entries
  | _ => []

/-- A setting has the value that is found, or its default if there is none. -/
def SetBy {α : Type} (value : α → Value) (default : α) (found : Option Value) (x : α) : Prop :=
  match found with
  | some v => v = value x
  | none => x = default

/-- A whole number as a value. -/
def integerOf (n : Nat) : Value := .integer n

/-- A table of texts. -/
def tableOf (properties : Bindings) : Value := .table (properties.map fun p => (p.1, .text p.2))

/-- The configuration has, setting by setting, what the keys of a document say. -/
structure Holds (es : List (String × Value)) (c : Config) : Prop where
  properties : SetBy tableOf ({} : Config).properties (es.lookup "properties") c.properties
  buildMajor : SetBy integerOf ({} : Requirements).buildMajor
    ((sectionEntries es "policy").lookup "minimum_build_major") c.requirements.buildMajor
  buildMajor_lt : c.requirements.buildMajor < Text.wordLimit
  compilationMajor : SetBy integerOf ({} : Requirements).compilationMajor
    ((sectionEntries es "policy").lookup "minimum_compilation_major") c.requirements.compilationMajor
  compilationMajor_lt : c.requirements.compilationMajor < Text.wordLimit
  vendorLabel : SetBy .text ({} : Requirements).vendorLabel
    ((sectionEntries es "policy").lookup "required_vendor_label") c.requirements.vendorLabel
  remoteCache : SetBy .boolean ({} : Config).remoteCache
    ((sectionEntries es "build_cache").lookup "remote_enabled") c.remoteCache

/-- The keys of the settings that stand in a section with others. -/
def settingKeys : List (String × String) :=
  [("policy", "minimum_build_major"), ("policy", "minimum_compilation_major"),
    ("policy", "required_vendor_label"), ("build_cache", "remote_enabled")]

/-- What a document has under these keys. -/
def settingValues (es : List (String × Value)) : List (Option Value) :=
  settingKeys.map fun k => (sectionEntries es k.1).lookup k.2

/-- Two documents say the same about all settings. -/
structure SameSettings (es es' : List (String × Value)) : Prop where
  properties : es.lookup "properties" = es'.lookup "properties"
  values : settingValues es = settingValues es'

/-- A number is taken from an integer that fits in 32 bits without a sign. -/
theorem word?_eq_some_iff {v : Value} {n : Nat} :
    word? v = some n ↔ v = integerOf n ∧ n < Text.wordLimit := by
  cases v with
  | integer k =>
    simp only [word?, integerOf, Value.integer.injEq, Option.ite_none_right_eq_some,
      Option.some.injEq]
    omega
  | _ => simp [word?, integerOf]

theorem text?_eq_some_iff {v : Value} {s : String} : text? v = some s ↔ v = .text s := by
  cases v <;> simp [text?]

theorem boolean?_eq_some_iff {v : Value} {b : Bool} : boolean? v = some b ↔ v = .boolean b := by
  cases v <;> simp [boolean?]

/-- Properties are taken from a table of texts, key by key. -/
theorem properties?_eq_some_iff {entries : List (String × Value)} {properties : Bindings} :
    properties? (.table entries) = some properties ↔ Value.table entries = tableOf properties := by
  have hentry : ∀ (e : String × Value) (p : String × String),
      (do return (e.1, ← text? e.2) : Option (String × String)) = some p ↔ e = (p.1, .text p.2) := by
    rintro ⟨key, v⟩ ⟨key', s⟩
    cases v <;> simp [text?]
  show entries.mapM _ = some properties ↔ _
  rw [mapM_eq_some_iff hentry, tableOf, Value.table.injEq]

/-- A setting is read if its value is of its kind, or if there is none. -/
theorem setting?_eq_some_iff {α : Type} {read : Value → Option α} {value : α → Value} {default x : α}
    {found : Option Value} (hread : ∀ v ∈ found, read v = some x ↔ v = value x) :
    setting? read default found = some x ↔ SetBy value default found x := by
  cases found with
  | none =>
    show some default = some x ↔ x = default
    rw [Option.some.injEq, eq_comm]
  | some v => exact hread v rfl

theorem setting?_word_eq_some_iff {default n : Nat} (hdefault : default < Text.wordLimit)
    {found : Option Value} : setting? word? default found = some n ↔
      SetBy integerOf default found n ∧ n < Text.wordLimit := by
  cases found with
  | none =>
    show some default = some n ↔ n = default ∧ n < Text.wordLimit
    constructor
    · rintro ⟨⟩
      exact ⟨rfl, hdefault⟩
    · rintro ⟨rfl, -⟩
      rfl
  | some v => exact word?_eq_some_iff

/-- A missing section is read as one without entries. -/
theorem setting?_section {α : Type} {read : Value → Option α} {default : α}
    (hempty : read (.table []) = some default) {es : List (String × Value)} {name : String}
    (htable : (es.lookup name).all isTable = true) :
    setting? read default (es.lookup name) = read (.table (sectionEntries es name)) := by
  unfold sectionEntries
  cases hfound : es.lookup name with
  | none => exact hempty.symm
  | some v =>
    rw [hfound] at htable
    cases v with
    | table entries => rfl
    | _ => cases htable

/-- The requirements are set key by key, each with a default of its own. -/
theorem requirements?_eq_some_iff {entries : List (String × Value)} {r : Requirements} :
    requirements? (.table entries) = some r ↔
      (SetBy integerOf ({} : Requirements).buildMajor (entries.lookup "minimum_build_major")
        r.buildMajor ∧ r.buildMajor < Text.wordLimit) ∧
      (SetBy integerOf ({} : Requirements).compilationMajor
        (entries.lookup "minimum_compilation_major") r.compilationMajor ∧
        r.compilationMajor < Text.wordLimit) ∧
      SetBy .text ({} : Requirements).vendorLabel (entries.lookup "required_vendor_label")
        r.vendorLabel := by
  have hread : requirements? (.table entries) = (do
      let buildMajor ← setting? word? ({} : Requirements).buildMajor
        (entries.lookup "minimum_build_major")
      let compilationMajor ← setting? word? ({} : Requirements).compilationMajor
        (entries.lookup "minimum_compilation_major")
      let vendorLabel ← setting? text? ({} : Requirements).vendorLabel
        (entries.lookup "required_vendor_label")
      return { buildMajor, compilationMajor, vendorLabel }) := rfl
  rw [hread, ← setting?_word_eq_some_iff (by decide), ← setting?_word_eq_some_iff (by decide),
    ← setting?_eq_some_iff fun _ _ => text?_eq_some_iff]
  simp only [Option.bind_eq_bind, Option.bind_eq_some_iff, Option.pure_def, Option.some.injEq]
  constructor
  · rintro ⟨_, hbuild, _, hcompilation, _, hlabel, rfl⟩
    exact ⟨hbuild, hcompilation, hlabel⟩
  · rintro ⟨hbuild, hcompilation, hlabel⟩
    exact ⟨_, hbuild, _, hcompilation, _, hlabel, rfl⟩

theorem cache?_eq_some_iff {entries : List (String × Value)} {b : Bool} :
    cache? (.table entries) = some b ↔
      SetBy .boolean ({} : Config).remoteCache (entries.lookup "remote_enabled") b :=
  setting?_eq_some_iff fun _ _ => boolean?_eq_some_iff

theorem properties?_section {es : List (String × Value)} {properties : Bindings}
    (htable : (es.lookup "properties").all isTable = true) :
    setting? properties? [] (es.lookup "properties") = some properties ↔
      SetBy tableOf ({} : Config).properties (es.lookup "properties") properties := by
  refine setting?_eq_some_iff fun v hv => ?_
  rw [Option.mem_def.mp hv] at htable
  cases v with
  | table entries => exact properties?_eq_some_iff
  | _ => cases htable

/-- A configuration is taken from entries just if they hold it, key by key. -/
theorem ofEntries?_eq_some_iff {es : List (String × Value)} (h : SectionsAreTables es) {c : Config} :
    ofEntries? es = some c ↔ Holds es c := by
  have hproperties := h "properties" (by decide)
  have hnone : requirements? (.table []) = some {} := rfl
  have hoff : cache? (.table []) = some false := rfl
  have hread : ofEntries? es = (do
      let properties ← setting? properties? [] (es.lookup "properties")
      let requirements ← requirements? (.table (sectionEntries es "policy"))
      let remoteCache ← cache? (.table (sectionEntries es "build_cache"))
      return { properties, requirements, remoteCache }) := by
    rw [← setting?_section hnone (h "policy" (by decide)),
      ← setting?_section hoff (h "build_cache" (by decide))]
    rfl
  rw [hread]
  simp only [Option.bind_eq_bind, Option.bind_eq_some_iff, Option.pure_def, Option.some.injEq,
    properties?_section hproperties, requirements?_eq_some_iff, cache?_eq_some_iff]
  constructor
  · rintro ⟨_, hproperties, _, ⟨hbuild, hcompilation, hlabel⟩, _, hcache, rfl⟩
    exact ⟨hproperties, hbuild.1, hbuild.2, hcompilation.1, hcompilation.2, hlabel, hcache⟩
  · intro hc
    exact ⟨_, hc.properties, _, ⟨⟨hc.buildMajor, hc.buildMajor_lt⟩,
      ⟨hc.compilationMajor, hc.compilationMajor_lt⟩, hc.vendorLabel⟩, _, hc.remoteCache, rfl⟩

theorem SameSettings.lookup_eq {es es' : List (String × Value)} (h : SameSettings es es')
    (name key : String) (hkey : (name, key) ∈ settingKeys) :
    (sectionEntries es name).lookup key = (sectionEntries es' name).lookup key :=
  List.map_inj_left.mp h.values _ hkey

theorem SameSettings.symm {es es' : List (String × Value)} (h : SameSettings es es') :
    SameSettings es' es := ⟨h.properties.symm, h.values.symm⟩

/-- Entries with the same settings hold the same configuration. -/
theorem Holds.of_sameSettings {es es' : List (String × Value)} (h : SameSettings es es') {c : Config}
    (hc : Holds es c) : Holds es' c where
  properties := h.properties ▸ hc.properties
  buildMajor := h.lookup_eq "policy" "minimum_build_major" (by decide) ▸ hc.buildMajor
  buildMajor_lt := hc.buildMajor_lt
  compilationMajor :=
    h.lookup_eq "policy" "minimum_compilation_major" (by decide) ▸ hc.compilationMajor
  compilationMajor_lt := hc.compilationMajor_lt
  vendorLabel := h.lookup_eq "policy" "required_vendor_label" (by decide) ▸ hc.vendorLabel
  remoteCache := h.lookup_eq "build_cache" "remote_enabled" (by decide) ▸ hc.remoteCache

/-- A document gives the configuration that its entries hold. -/
theorem parse?_eq_some_iff {document : String} {es : List (String × Value)}
    (hread : Toml.parse? document = some es) (h : SectionsAreTables es) {c : Config} :
    parse? document = some c ↔ Holds es c := by
  unfold parse?
  rw [hread]
  exact ofEntries?_eq_some_iff h

/-- Documents that say the same about all settings are read alike, whatever other keys they have. -/
theorem parse?_eq_of_sameSettings {document document' : String} {es es' : List (String × Value)}
    (hread : Toml.parse? document = some es) (hread' : Toml.parse? document' = some es')
    (h : SectionsAreTables es) (h' : SectionsAreTables es') (hsame : SameSettings es es') :
    parse? document' = parse? document := by
  apply Option.ext
  intro c
  rw [parse?_eq_some_iff hread h, parse?_eq_some_iff hread' h']
  exact ⟨.of_sameSettings hsame.symm, .of_sameSettings hsame⟩

end Config

/-- On every machine a load fails for the configuration only. A named file is loaded, or the failure names it;
the file in the user's home is loaded likewise if it is there, and is not missed otherwise. Of a document whose
sections are tables, each setting is what its own key says; keys that no setting has make no difference. -/
theorem configuration_loads_key_by_key :
    (∀ m : Machine,
      (∀ named e, Config.load m named = .error e → e.OfConfig) ∧
      (∀ path, Config.LoadsFile m path (Config.load m (some path))) ∧
      Config.LoadsDefault m (Config.load m none)) ∧
    (∀ document es, Toml.parse? document = some es → Config.SectionsAreTables es →
      (∀ c, Config.parse? document = some c ↔ Config.Holds es c) ∧
      ∀ document' es', Toml.parse? document' = some es' → Config.SectionsAreTables es' →
        Config.SameSettings es es' → Config.parse? document' = Config.parse? document) := by
  refine ⟨fun m => ⟨fun named e => Config.ofConfig_of_load, Config.loadsFile_load m,
    Config.loadsDefault_load m⟩, fun document es hread h => ⟨fun c => ?_, ?_⟩⟩
  · exact Config.parse?_eq_some_iff hread h
  · intro document' es' hread' h' hsame
    exact Config.parse?_eq_of_sameSettings hread hread' h h' hsame

/-- A file with one of the requirements and an unknown key, and no file in the user's home. -/
theorem configuration_loads_key_by_key_partial :
    let document := "[policy]\nminimum_build_major = 11\nunknown = 1\n"
    let m : Machine := {
      files := ⟨[(["c.toml"], .file (Text.Utf8.encode document) false)]⟩
      workingDirectory := [], environment := [], accountHome := some ⟨"/home"⟩ }
    Config.load m (some ⟨"/c.toml"⟩) = .ok { requirements := { buildMajor := 11 } } ∧
    Config.load m (some ⟨"/d.toml"⟩) = .error (.config ⟨"/d.toml"⟩ .missing) ∧
    Config.load m none = .ok {} ∧
    Config.parse? "[policy]\nminimum_build_major = 11\n" = Config.parse? document := by
  intro document m
  -- values cannot be compared, so the number under the first key is told by what is read from it
  have hsays : ∀ d ∈ [document, "[policy]\nminimum_build_major = 11\n"], ∃ es,
      Toml.parse? d = some es ∧ Config.SectionsAreTables es ∧ es.lookup "properties" = none ∧
      Config.settingValues es = [some (Config.integerOf 11), none, none, none] := by
    intro d hd
    have hdecided : (Toml.parse? d).any (fun es => decide (Config.SectionsAreTables es ∧
        es.lookup "properties" = none ∧
        (Config.settingValues es).map (·.map Config.word?) = [some (some 11), none, none, none])) := by
      simp only [List.mem_cons, List.not_mem_nil, or_false] at hd
      rcases hd with rfl | rfl <;> decide +kernel
    obtain ⟨es, hes, hdecided⟩ := (Option.any_eq_true _ _).mp hdecided
    obtain ⟨htables, hproperties, hvalues⟩ := of_decide_eq_true hdecided
    refine ⟨es, hes, htables, hproperties, ?_⟩
    simpa [Config.settingValues, Config.settingKeys, Config.word?_eq_some_iff, Text.wordLimit]
      using hvalues
  obtain ⟨es, hread, htables, hproperties, hvalues⟩ := hsays document List.mem_cons_self
  obtain ⟨es', hread', htables', hproperties', hvalues'⟩ :=
    hsays _ (List.mem_cons_of_mem _ List.mem_cons_self)
  have hsame : Config.SameSettings es es' :=
    ⟨hproperties.trans hproperties'.symm, hvalues.trans hvalues'.symm⟩
  have hholds : Config.Holds es { requirements := { buildMajor := 11 } } := by
    simp only [Config.settingValues, Config.settingKeys, List.map_cons, List.cons.injEq] at hvalues
    obtain ⟨hbuild, hcompilation, hlabel, hcache, -⟩ := hvalues
    exact {
      properties := by rw [hproperties]; rfl
      buildMajor := by rw [hbuild]; rfl
      buildMajor_lt := by decide
      compilationMajor := by rw [hcompilation]; rfl
      compilationMajor_lt := by decide
      vendorLabel := by rw [hlabel]; rfl
      remoteCache := by rw [hcache]; rfl }
  have hdocument := configuration_loads_key_by_key.2 document es hread htables
  have hload := configuration_loads_key_by_key.1 m
  have hfind : ∀ p : Path, p.text ≠ "" → p.isAbsolute = true →
      m.find p = m.files.follow FileTree.linkLimit [] (p.pieces.map String.ofList) := by
    intro p hp habsolute
    unfold Machine.find FileTree.find
    rw [if_neg hp, if_pos habsolute]
  have hfile : m.files.entry? ["c.toml"] = some (.file (Text.Utf8.encode document) false) := rfl
  have hnone : m.files.entry? ["d.toml"] = none := rfl
  have hhome : m.files.entry? ["home"] = none := rfl
  have htext : m.HoldsText ⟨"/c.toml"⟩ document := by
    have hnames : (⟨"/c.toml"⟩ : Path).pieces.map String.ofList = ["", "c.toml"] := by decide +kernel
    refine ⟨["c.toml"], Text.Utf8.encode document, false, ?_,
      Text.Utf8.decode?_eq_some_iff.mp (by decide +kernel)⟩
    rw [hfind _ (by decide) (by decide), hnames]
    simp [FileTree.follow, hfile]
  have hmissing : m.pathExists ⟨"/d.toml"⟩ = false := by
    have hnames : (⟨"/d.toml"⟩ : Path).pieces.map String.ofList = ["", "d.toml"] := by decide +kernel
    unfold Machine.pathExists
    rw [hfind _ (by decide) (by decide), hnames]
    simp [FileTree.follow, hnone]
  have habsent : m.pathExists (((⟨"/home"⟩ : Path).join ".jdkcheck").join "config.toml") = false := by
    have hnames : (((⟨"/home"⟩ : Path).join ".jdkcheck").join "config.toml").pieces.map String.ofList
        = ["", "home", ".jdkcheck", "config.toml"] := by decide +kernel
    unfold Machine.pathExists
    rw [hfind _ (by decide) (by decide), hnames]
    simp [FileTree.follow, hhome]
  exact ⟨((hload.2.1 _).ok_iff _).mpr ⟨document, htext, (hdocument.1 _).mpr hholds⟩,
    (hload.2.1 _).missing hmissing, hload.2.2.absent _ rfl habsent,
    hdocument.2 _ es' hread' htables' hsame⟩

end BuildJdk
