import BuildJdk.Locate
import BuildJdk.Proofs.Cutting
import BuildJdk.Proofs.Links
import BuildJdk.Proofs.Precedence

/-!
# The home that a launcher belongs to

A launcher belongs to the home two names above it, if the name between them is `bin`. It is taken by the path of
the place that it leads to, and by its own path if it leads nowhere or along more links than are followed.

Main statement: which home a launcher belongs to, and which home the build runs on. The search path comes in by a
search that finds programs only, and the properties by any way of looking them up. `Located` tells of the search
path itself and of properties in layers, the failures included.
-/

namespace BuildJdk.Locate

open FileTree Component

variable {m : Machine} {java p : Path} {links : Nat} {place : Location × Entry} {home l : Location}
  {name : String} {e : Entry} {bytes : List UInt8} {executable : Bool}

/-- The path that a launcher is taken by: that of the place it leads to, or else its own. -/
inductive TakenAs (m : Machine) (java : Path) : Path → Prop
  | place {links : Nat} {place : Location × Entry} : m.Leads java links place → links ≤ linkLimit →
      TakenAs m java place.1.path
  | itself : (∀ links place, m.Leads java links place → linkLimit < links) → TakenAs m java java

/-- The home of the installation that runs the build: the one that is named, else the one that the property has,
else the one two names above the place that the launcher on the search path leads to. -/
inductive Current (search : Machine → Option Path) (m : Machine) :
    Option Path → Property.Lookup → Path → Prop
  | explicit {home : Path} {lookup : Property.Lookup} : Current search m (some home) lookup home
  | property {lookup : Property.Lookup} {value : String} :
      lookup m Property.javaHomeKey = some value → Current search m none lookup ⟨value⟩
  | launcher {lookup : Property.Lookup} {java : Path} {links : Nat} {home : Location} {name : String}
      {bytes : List UInt8} {executable : Bool} : lookup m Property.javaHomeKey = none →
      search m = some java → m.Leads java links (home ++ ["bin", name], .file bytes executable) →
      links ≤ linkLimit → Current search m none lookup home.path

/-- A launcher belongs to a home if the path that it is taken by has a directory `bin` of that home above it. -/
def BelongsTo (m : Machine) (java home : Path) : Prop :=
  ∃ taken bin, TakenAs m java taken ∧ taken.parent? = some bin ∧ bin.fileName? = some "bin" ∧
    bin.parent? = some home

/-- The directories of the search path, in their order: what stands between the colons of the variable. -/
inductive Searched (m : Machine) : List Path → Prop
  | unset : m.environment.Says "PATH" none → Searched m []
  | between {value : String} {directories : List Path} : m.environment.Says "PATH" (some value) →
      directories ≠ [] → (∀ d ∈ directories, ':' ∉ d.text.toList) →
      value = String.intercalate ":" (directories.map (·.text)) → Searched m directories

/-- The directory that one of the search path expands to. A tilde as its first component stands for the home
that the variable says, or else for that of the account, and the components behind it are joined to that. -/
inductive Expands (m : Machine) (directory : Path) : Path → Prop
  | tilde {home? : Option String} {rest : List Component} :
      directory.components = .name "~" :: rest → m.environment.Says "HOME" home? →
      Expands m directory (rest.foldl (fun p c => p.join c.text)
        (home?.elim (m.accountHome.getD ⟨""⟩) Path.mk))
  | itself : directory.components.head? ≠ some (.name "~") → Expands m directory directory

/-- The program of a name in a directory of the search path, if none of the directories before it has one. -/
def FirstProgram (m : Machine) (name : String) (program : Path) : Prop :=
  ∃ before listed after directory, Searched m (before ++ listed :: after) ∧
    Expands m listed directory ∧ program = directory.join name ∧ m.isProgram program = true ∧
    ∀ l ∈ before, ∀ d, Expands m l d → m.isProgram (d.join name) = false

/-- How the current home is located when properties come from layers: it is the one that is named, else the one
that the layers give, else the one that the first launcher on the search path belongs to. The last two cases are
those of a launcher without a home and of no launcher at all. -/
inductive Located (m : Machine) (source : Property.Source) : Option Path → Except Failure Path → Prop
  | explicit (home : Path) : Located m source (some home) (.ok home)
  | property {value : String} : source.Gives m "JAVA_HOME" (some value) →
      Located m source none (.ok ⟨value⟩)
  | launcher {java home : Path} : source.Gives m "JAVA_HOME" none → FirstProgram m "java" java →
      BelongsTo m java home → Located m source none (.ok home)
  | homeless {java : Path} : source.Gives m "JAVA_HOME" none → FirstProgram m "java" java →
      (∀ home, ¬ BelongsTo m java home) → Located m source none (.error (.notFound (.homeOf java)))
  | nowhere : source.Gives m "JAVA_HOME" none → (∀ java, ¬ FirstProgram m "java" java) →
      Located m source none (.error (.notFound .installation))

/-! ## Where a launcher leads -/

theorem resolve?_of_leads (h : m.Leads java links place) (hle : links ≤ linkLimit) :
    m.resolve? java = some place.1.path := by
  unfold Machine.resolve?
  rw [h.find_eq hle]

/-- A launcher is taken by its resolved path, or else by its own. -/
theorem takenAs_iff : TakenAs m java p ↔ (m.resolve? java).getD java = p := by
  cases hfind : m.find java with
  | ok place =>
    obtain ⟨links, hle, hleads⟩ := Machine.find_eq_ok_iff.mp hfind
    rw [resolve?_of_leads hleads hle, Option.getD_some]
    constructor
    · rintro (⟨hleads', hle'⟩ | hfar)
      · have hsame := hfind.symm.trans (hleads'.find_eq hle')
        rw [Except.ok.inj hsame]
      · have hmore := hfar _ _ hleads
        omega
    · rintro rfl
      exact .place hleads hle
  | error e =>
    have hnone : m.resolve? java = none := by simp [Machine.resolve?, hfind]
    rw [hnone, Option.getD_none]
    constructor
    · rintro (⟨hleads, hle⟩ | _)
      · cases hfind.symm.trans (hleads.find_eq hle)
      · rfl
    · rintro rfl
      refine .itself fun links place hleads => Nat.lt_of_not_le fun hle => ?_
      cases hfind.symm.trans (hleads.find_eq hle)

/-! ## Two names above -/

theorem homeOf?_eq (m : Machine) (java : Path) : homeOf? m java =
    (((m.resolve? java).getD java).parent?).bind fun bin =>
      if bin.fileName? = some "bin" then bin.parent? else none := by
  unfold homeOf?
  dsimp only
  cases ((m.resolve? java).getD java).parent? <;> rfl

/-- This is the home that the program takes a launcher to belong to. -/
theorem belongsTo_iff {home : Path} : BelongsTo m java home ↔ homeOf? m java = some home := by
  unfold BelongsTo
  simp only [takenAs_iff, homeOf?_eq, Option.bind_eq_some_iff, Option.ite_none_right_eq_some,
    exists_and_left, exists_eq_left']

/-- A launcher belongs to a home just if it is taken by a path with two components more, the first of them
`bin`. -/
theorem exists_homeOf?_iff {home : Path} :
    (∃ found, homeOf? m java = some found ∧ found.components = home.components) ↔
      ∃ taken last, TakenAs m java taken ∧ taken.components = home.components ++ [.name "bin", last] := by
  simp only [takenAs_iff, homeOf?_eq]
  generalize (m.resolve? java).getD java = taken
  constructor
  · rintro ⟨found, hfound, hsame⟩
    obtain ⟨bin, hbin, hfound⟩ := Option.bind_eq_some_iff.mp hfound
    split at hfound
    · next hname =>
      obtain ⟨last, htaken, -⟩ := Path.exists_of_parent? hbin
      obtain ⟨c, hcomponents, hlast⟩ := Path.exists_of_parent? hfound
      rw [hname] at hlast
      obtain rfl := name?_eq_some_iff.mp hlast.symm
      exact ⟨taken, last, rfl, by simp [htaken, hcomponents, hsame]⟩
    · cases hfound
  · rintro ⟨_, last, rfl, htaken⟩
    have hsplit : taken.components = (home.components ++ [.name "bin"]) ++ [last] := by simp [htaken]
    -- two components are to be cut off, so there is a parent, and one above it
    cases hparent : taken.parent? with
    | none =>
      have hshort := Path.components_of_parent?_eq_none hparent
      rw [htaken] at hshort
      rcases hshort with h | h <;> simpa using congrArg List.length h
    | some bin =>
      obtain ⟨c, hcut, -⟩ := Path.exists_of_parent? hparent
      have hbin := (List.append_inj' (hcut.symm.trans hsplit) rfl).1
      cases habove : bin.parent? with
      | none =>
        have hshort := Path.components_of_parent?_eq_none habove
        rw [hbin] at hshort
        rcases hshort with h | h
        · simp at h
        · have hroot := congrArg List.getLast? h
          simp at hroot
      | some found =>
        obtain ⟨c', hcut', hname⟩ := Path.exists_of_parent? habove
        obtain ⟨hsame, hlast⟩ := List.append_inj' (hcut'.symm.trans hbin) rfl
        cases hlast
        exact ⟨found, by rw [Option.bind_some, hname, name?, if_pos rfl, habove], hsame⟩

/-- Where a launcher leads tells the home by its names. -/
theorem homeOf?_eq_some_iff (h : m.Leads java links (l, e)) (hle : links ≤ linkLimit)
    (hl : ∀ name ∈ l, IsName name) {found : Path} :
    homeOf? m java = some found ↔ ∃ home name, l = home ++ ["bin", name] ∧ found = Location.path home := by
  rw [homeOf?_eq, resolve?_of_leads h hle, Option.getD_some]
  rcases List.eq_nil_or_concat l with rfl | ⟨directory, last, rfl⟩
  · have hroot : Path.parent? (Location.path []) = none := by decide
    rw [hroot]
    simp
  · rw [List.concat_eq_append] at hl ⊢
    have hdirectory : ∀ name ∈ directory, IsName name := fun name hname => hl name (by simp [hname])
    rw [Location.parent?_path hl, Option.bind_some]
    rcases List.eq_nil_or_concat directory with rfl | ⟨above, bin, rfl⟩
    · have hroot : Path.fileName? (Location.path []) = none := by decide
      rw [hroot, if_neg nofun]
      refine iff_of_false nofun ?_
      rintro ⟨home, name, hsplit, -⟩
      have hlength := congrArg List.length hsplit
      simp at hlength
    · rw [List.concat_eq_append] at hdirectory ⊢
      rw [Location.fileName?_path hdirectory, Location.parent?_path hdirectory]
      constructor
      · intro hfound
        split at hfound
        · next heq =>
          cases heq
          cases hfound
          exact ⟨above, last, by simp, rfl⟩
        · cases hfound
      · rintro ⟨home, name, hsplit, rfl⟩
        have hsplit' : (above ++ [bin]) ++ [last] = (home ++ ["bin"]) ++ [name] := by simp [hsplit]
        obtain ⟨hbin, -⟩ := List.append_inj' hsplit' rfl
        obtain ⟨rfl, heq⟩ := List.append_inj' hbin rfl
        cases heq
        rw [if_pos rfl]

theorem names_of_isPlace (h : IsPlace m.files (l, e)) : ∀ name ∈ l, IsName name := by
  cases h with
  | directory hl => exact hl.isName
  | @file l last _ _ hl hlast _ =>
    intro name hname
    rcases List.mem_append.mp hname with hname | hname
    · exact hl.isName name hname
    · rwa [List.mem_singleton.mp hname]

theorem stands_of_isPlace_file (h : IsPlace m.files (l ++ [name], .file bytes executable)) :
    Stands m.files l ∧ m.files.entry? (l ++ [name]) = some (.file bytes executable) := by
  generalize hplace : (l ++ [name], Entry.file bytes executable) = place at h
  cases h with
  | directory _ => cases hplace
  | file hl _ hentry =>
    obtain ⟨hl', hfile⟩ := Prod.mk.inj hplace
    obtain ⟨rfl, hname⟩ := List.append_inj' hl' rfl
    cases hname
    cases hfile
    exact ⟨hl, hentry⟩

/-- A directory that no link leads to and that has a launcher is a home. -/
theorem isValid_path (hbin : Stands m.files (home ++ ["bin"]))
    (hjava : m.files.entry? (home ++ ["bin"] ++ ["java"]) = some (.file bytes executable)) :
    Home.isValid m home.path = true := by
  have hhome : Stands m.files home := hbin.of_prefix (List.prefix_append _ _)
  have hdirectory : m.find home.path = .ok (home, .directory) := by
    refine Machine.find_eq_directory_iff.mpr ⟨Location.text_path_ne_empty home, ?_⟩
    have hfollow : m.files.follow linkLimit (m.start home.path) (home.path.steps ++ [])
        = m.files.follow linkLimit home [] := Machine.follow_path_append hhome
    rwa [List.append_nil, follow] at hfollow
  have hlooked : IsLookedFor "bin" ∧ IsLookedFor "java" := by
    unfold IsLookedFor
    decide
  have hentry : m.files.entry? (home ++ ["bin"]) = some .directory := hbin.entry_eq home "bin" (List.prefix_refl _)
  have hprogram : m.find (Home.program home.path "java")
      = .ok (home ++ ["bin"] ++ ["java"], .file bytes executable) := by
    rw [Home.find_program (by decide), Machine.follow_path_append hhome, follow_lookedFor hlooked.1, hentry]
    dsimp only
    rw [follow_lookedFor hlooked.2, hjava]
    exact if_pos rfl
  simp [Home.isValid, Machine.isDirectory, Machine.isFile, hdirectory, hprogram]

/-! ## The search path -/

/-- The directories that are searched are the pieces of the variable. -/
theorem searched_iff {directories : List Path} : Searched m directories ↔ searchDirectories m = directories := by
  unfold searchDirectories Machine.variableValue?
  constructor
  · intro h
    cases h with
    | unset hunset => rw [Bindings.says_iff.mp hunset]
    | @between value _ hvalue hne hcolon hjoined =>
      rw [Bindings.says_iff.mp hvalue]
      have hpieces : value.toList.splitOn ':' = directories.map (·.text.toList) := by
        rw [hjoined, String.toList_intercalate, List.map_map]
        exact List.splitOn_intercalate ':' (by simpa using hcolon) (by simpa using hne)
      simp [hpieces, Function.comp_def]
  · rintro rfl
    cases hvalue : m.environment.get? "PATH" with
    | none => exact .unset (Bindings.says_iff.mpr hvalue)
    | some value =>
      refine .between (Bindings.says_iff.mpr hvalue) (by simp [List.splitOn_ne_nil]) ?_ ?_
      · intro d hd
        obtain ⟨piece, hpiece, rfl⟩ := List.mem_map.mp hd
        rw [String.toList_ofList]
        exact not_mem_of_mem_splitOn hpiece
      · apply String.toList_injective
        rw [String.toList_intercalate]
        simp [Function.comp_def, List.intercalate_splitOn]

theorem tildeHome_eq (m : Machine) :
    tildeHome m = (m.environment.get? "HOME").elim (m.accountHome.getD ⟨""⟩) Path.mk := by
  unfold tildeHome Machine.variableValue?
  cases m.environment.get? "HOME" <;> rfl

/-- This is how the program expands a tilde. -/
theorem expands_iff {listed directory : Path} : Expands m listed directory ↔ expandTilde m listed = directory := by
  unfold expandTilde
  constructor
  · intro h
    cases h with
    | tilde hlisted hhome => simp only [hlisted, tildeHome_eq, Bindings.says_iff.mp hhome]
    | itself hhead =>
      split
      · next hlisted => exact absurd (by rw [hlisted, List.head?_cons]) hhead
      · rfl
  · rintro rfl
    split
    · next hlisted =>
      rw [tildeHome_eq]
      exact .tilde hlisted (Bindings.says_iff.mpr rfl)
    · next hlisted =>
      refine .itself fun hhead => ?_
      obtain ⟨rest, hrest⟩ := List.head?_eq_some_iff.mp hhead
      exact hlisted rest hrest

/-- This is the program that the search path gives. -/
theorem firstProgram_iff : FirstProgram m name p ↔ onSearchPath? m name = some p := by
  unfold FirstProgram onSearchPath?
  simp only [searched_iff, expands_iff]
  rw [List.find?_map, Option.map_eq_some_iff]
  constructor
  · rintro ⟨before, listed, after, _, hsplit, rfl, rfl, hprogram, hbefore⟩
    refine ⟨listed, List.find?_eq_some_iff_append.mpr ⟨hprogram, before, after, hsplit, ?_⟩, rfl⟩
    simpa using hbefore
  · rintro ⟨listed, hfound, rfl⟩
    obtain ⟨hprogram, before, after, hsplit, hbefore⟩ := List.find?_eq_some_iff_append.mp hfound
    exact ⟨before, listed, after, _, hsplit, rfl, rfl, hprogram, by simpa using hbefore⟩

theorem isProgram_of_onSearchPath? (h : onSearchPath? m name = some java) : m.isProgram java = true :=
  List.find?_some h

/-- A program is a file that its path leads to. -/
theorem exists_leads_of_isProgram (h : m.isProgram java = true) : ∃ links l bytes executable,
    links ≤ linkLimit ∧ m.Leads java links (l, .file bytes executable) := by
  unfold Machine.isProgram at h
  split at h
  · next l bytes executable hfind =>
    obtain ⟨links, hle, hleads⟩ := Machine.find_eq_ok_iff.mp hfind
    exact ⟨links, l, bytes, executable, hle, hleads⟩
  · cases h

/-- A program belongs to the home whose directory of programs it stands in, past all links. -/
theorem homeOf?_of_isProgram (hm : m.Grounded) (hjava : m.isProgram java = true) {found : Path} :
    homeOf? m java = some found ↔ ∃ links home name bytes executable, links ≤ linkLimit ∧
      m.Leads java links (home ++ ["bin", name], .file bytes executable) ∧ found = Location.path home := by
  obtain ⟨links, l, bytes, executable, hle, hleads⟩ := exists_leads_of_isProgram hjava
  rw [homeOf?_eq_some_iff hleads hle (names_of_isPlace (hleads.isPlace hm))]
  constructor
  · rintro ⟨home, name, rfl, rfl⟩
    exact ⟨links, home, name, bytes, executable, hle, hleads, rfl⟩
  · rintro ⟨links', home, name, _, _, hle', hleads', rfl⟩
    cases (hleads.find_eq hle).symm.trans (hleads'.find_eq hle')
    exact ⟨home, name, rfl, rfl⟩

section

variable {search : Machine → Option Path} {explicit : Option Path} {lookup : Property.Lookup}

theorem currentHomeBy_of_property {value : String}
    (h : lookup m Property.javaHomeKey = some value) :
    currentHomeBy search m none lookup = .ok ⟨value⟩ := by
  simp only [currentHomeBy, h]

theorem currentHomeBy_of_search (h : lookup m Property.javaHomeKey = none)
    (hjava : search m = some java) : currentHomeBy search m none lookup
      = (homeOf? m java).elim (.error (.notFound (.homeOf java))) .ok := by
  simp only [currentHomeBy, h, hjava]
  cases homeOf? m java <;> rfl

theorem currentHomeBy_of_none (h : lookup m Property.javaHomeKey = none) (hjava : search m = none) :
    currentHomeBy search m none lookup = .error (.notFound .installation) := by
  simp only [currentHomeBy, h, hjava]

/-- A current home is found just if it is the one that is named, given or owns the launcher. -/
theorem currentHomeBy_eq_ok_iff (hm : m.Grounded)
    (hsearch : ∀ java, search m = some java → m.isProgram java = true) {home : Path} :
    currentHomeBy search m explicit lookup = .ok home ↔ Current search m explicit lookup home := by
  constructor
  · intro h
    cases explicit with
    | some named =>
      cases h
      exact .explicit
    | none =>
      cases hproperty : lookup m Property.javaHomeKey with
      | some value =>
        rw [currentHomeBy_of_property hproperty] at h
        cases h
        exact .property hproperty
      | none =>
        cases hjava : search m with
        | none =>
          rw [currentHomeBy_of_none hproperty hjava] at h
          cases h
        | some java =>
          rw [currentHomeBy_of_search hproperty hjava] at h
          cases hhome : homeOf? m java with
          | none =>
            rw [hhome] at h
            cases h
          | some found =>
            rw [hhome] at h
            cases h
            obtain ⟨_, _, _, _, _, hle, hleads, rfl⟩ :=
              (homeOf?_of_isProgram hm (hsearch java hjava)).mp hhome
            exact .launcher hproperty hjava hleads hle
  · rintro (_ | hproperty | ⟨hproperty, hjava, hleads, hle⟩)
    · rfl
    · exact currentHomeBy_of_property hproperty
    · rw [currentHomeBy_of_search hproperty hjava, (homeOf?_of_isProgram hm (hsearch _ hjava)).mpr
        ⟨_, _, _, _, _, hle, hleads, rfl⟩]
      rfl

/-- Nothing but a missing home or launcher can fail. -/
theorem exists_notFound_of_error {failure : Failure}
    (h : currentHomeBy search m explicit lookup = .error failure) : ∃ what, failure = .notFound what := by
  unfold currentHomeBy at h
  repeat' split at h
  all_goals cases h
  · exact ⟨_, rfl⟩
  · exact ⟨_, rfl⟩

end

/-- The current home is the one that is located. -/
theorem located_iff {source : Property.Source} {explicit : Option Path} {r : Except Failure Path} :
    Located m source explicit r ↔ currentHome m explicit source = r := by
  have hgives : ∀ {value?}, source.Gives m "JAVA_HOME" value? ↔
      source.lookup m Property.javaHomeKey = value? := Property.Source.gives_iff
  constructor
  · intro h
    cases h with
    | explicit home => rfl
    | property hvalue => exact currentHomeBy_of_property (hgives.mp hvalue)
    | launcher hnone hjava hhome =>
      refine (currentHomeBy_of_search (hgives.mp hnone) (firstProgram_iff.mp hjava)).trans ?_
      rw [belongsTo_iff.mp hhome, Option.elim_some]
    | homeless hnone hjava hhome =>
      refine (currentHomeBy_of_search (hgives.mp hnone) (firstProgram_iff.mp hjava)).trans ?_
      simp only [belongsTo_iff, ← Option.eq_none_iff_forall_ne_some] at hhome
      rw [hhome, Option.elim_none]
    | nowhere hnone hjava =>
      simp only [firstProgram_iff, ← Option.eq_none_iff_forall_ne_some] at hjava
      exact currentHomeBy_of_none (hgives.mp hnone) hjava
  · rintro rfl
    -- in the order of the program: the home that is named, the layers, the search path
    cases explicit with
    | some home => exact .explicit home
    | none =>
      cases hproperty : source.lookup m Property.javaHomeKey with
      | some value =>
        rw [currentHome, currentHomeBy_of_property hproperty]
        exact .property (hgives.mpr hproperty)
      | none =>
        cases hjava : onSearchPath? m "java" with
        | none =>
          rw [currentHome, currentHomeBy_of_none hproperty hjava]
          exact .nowhere (hgives.mpr hproperty) (by simp [firstProgram_iff, hjava])
        | some java =>
          have hfirst : FirstProgram m "java" java := firstProgram_iff.mpr hjava
          rw [currentHome, currentHomeBy_of_search hproperty hjava]
          cases hhome : homeOf? m java with
          | none => exact .homeless (hgives.mpr hproperty) hfirst (by simp [belongsTo_iff, hhome])
          | some home => exact .launcher (hgives.mpr hproperty) hfirst (belongsTo_iff.mpr hhome)

/-- A launcher belongs to a home just if the path that it is taken by is that of the home with `bin` and one name
more. So a launcher that leads to the file `bin/java` of a home, through no more links than are followed for one
path, belongs to that home, and the home is valid. Whatever search finds programs only, as the one on the search
path does, and however properties are looked up: the build runs on the home that is named, else on the one that
the property has, else on the one of the launcher that is found; if there is none of these, no home is found, and
nothing else can fail. -/
theorem current_home_owns_launcher (m : Machine) :
    (∀ java home : Path, (∃ found, homeOf? m java = some found ∧ found.components = home.components) ↔
      ∃ taken last, TakenAs m java taken ∧
        taken.components = home.components ++ [.name "bin", last]) ∧
    (∀ java, onSearchPath? m "java" = some java → m.isProgram java = true) ∧
    (m.Grounded →
      (∀ java links home bytes executable,
        m.Leads java links (home ++ ["bin", "java"], .file bytes executable) → links ≤ linkLimit →
          homeOf? m java = some (Location.path home) ∧ Home.isValid m (Location.path home) = true) ∧
      ∀ search explicit lookup, (∀ java, search m = some java → m.isProgram java = true) →
        (∀ home, currentHomeBy search m explicit lookup = .ok home ↔
          Current search m explicit lookup home) ∧
        ((∃ what, currentHomeBy search m explicit lookup = .error (.notFound what)) ↔
          ∀ home, ¬ Current search m explicit lookup home) ∧
        ∀ failure, currentHomeBy search m explicit lookup = .error failure →
          ∃ what, failure = .notFound what) := by
  refine ⟨fun _ _ => exists_homeOf?_iff, fun _ => isProgram_of_onSearchPath?, fun hm => ⟨?_, ?_⟩⟩
  · intro java links home bytes executable hleads hle
    have hplace := hleads.isPlace hm
    refine ⟨(homeOf?_eq_some_iff hleads hle (names_of_isPlace hplace)).mpr ⟨home, "java", rfl, rfl⟩, ?_⟩
    have hsplit : home ++ ["bin", "java"] = (home ++ ["bin"]) ++ ["java"] := by simp
    rw [hsplit] at hplace
    obtain ⟨hbin, hjava⟩ := stands_of_isPlace_file hplace
    exact isValid_path hbin hjava
  · intro search explicit lookup hsearch
    have hiff : ∀ home, currentHomeBy search m explicit lookup = .ok home ↔
        Current search m explicit lookup home := fun home => currentHomeBy_eq_ok_iff hm hsearch
    refine ⟨hiff, ⟨?_, ?_⟩, fun failure h => exists_notFound_of_error h⟩
    · rintro ⟨what, h⟩ home hcurrent
      cases h.symm.trans ((hiff home).mpr hcurrent)
    · intro hnone
      cases hresult : currentHomeBy search m explicit lookup with
      | ok home => exact absurd ((hiff home).mp hresult) (hnone home)
      | error failure =>
        obtain ⟨what, rfl⟩ := exists_notFound_of_error hresult
        exact ⟨what, rfl⟩

/-- A launcher behind an absolute link, a relative one, and one in the place of a directory. -/
theorem current_home_owns_launcher_linked :
    let m : Machine := {
      files := ⟨[(["usr"], .directory), (["usr", "bin"], .directory),
        (["usr", "bin", "java"], .link "/etc/java"), (["etc"], .directory),
        (["etc", "java"], .link "../alt/bin/java"), (["alt"], .link "jvm/jdk"), (["jvm"], .directory),
        (["jvm", "jdk"], .directory), (["jvm", "jdk", "bin"], .directory),
        (["jvm", "jdk", "bin", "java"], .file [] true)]⟩
      workingDirectory := [], environment := [("PATH", "/usr/bin")], accountHome := none }
    m.Grounded ∧ m.Leads ⟨"/usr/bin/java"⟩ 3 (["jvm", "jdk"] ++ ["bin", "java"], .file [] true) ∧
      homeOf? m ⟨"/usr/bin/java"⟩ = some (Location.path ["jvm", "jdk"]) ∧
      Home.isValid m (Location.path ["jvm", "jdk"]) = true ∧
      currentHome m none (.standard [] []) = .ok (Location.path ["jvm", "jdk"]) := by
  intro m
  have hname : ∀ name ∈ ["usr", "bin", "java", "etc", "alt", "jvm", "jdk"], IsLookedFor name := by
    unfold IsLookedFor
    decide
  have hnames : targetNames "/usr/bin/java" = ["", "usr", "bin", "java"] ∧
      targetNames "/etc/java" = ["", "etc", "java"] ∧
      targetNames "../alt/bin/java" = ["..", "alt", "bin", "java"] ∧
      targetNames "jvm/jdk" = ["jvm", "jdk"] := by decide +kernel
  obtain ⟨hjava, habsolute, hrelative, hdirectory⟩ := hnames
  have hfile : m.files.Leads [] ["jvm", "jdk", "bin", "java"] 0
      (["jvm", "jdk", "bin", "java"], .file [] true) :=
    .down (hname _ (by simp)) rfl (.down (hname _ (by simp)) rfl (.down (hname _ (by simp)) rfl
      (.file (hname _ (by simp)) rfl)))
  have halt : m.files.Leads ["etc"] ["..", "alt", "bin", "java"] 1
      (["jvm", "jdk", "bin", "java"], .file [] true) := by
    refine .up (.link (hname _ (by simp)) rfl ?_)
    rw [hdirectory]
    exact hfile
  have hetc : m.files.Leads [] ["", "etc", "java"] 2 (["jvm", "jdk", "bin", "java"], .file [] true) := by
    refine .skip rfl (.down (hname _ (by simp)) rfl (.link (hname _ (by simp)) rfl ?_))
    rw [hrelative]
    exact halt
  have hleads : m.Leads ⟨"/usr/bin/java"⟩ 3 (["jvm", "jdk"] ++ ["bin", "java"], .file [] true) := by
    refine ⟨by decide, ?_⟩
    show m.files.Leads [] (targetNames "/usr/bin/java") 3 _
    rw [hjava]
    refine .skip rfl (.down (hname _ (by simp)) rfl (.down (hname _ (by simp)) rfl
      (.link (hname _ (by simp)) rfl ?_)))
    rw [habsolute]
    exact hetc
  have hm : m.Grounded := ⟨nofun, (stands_nil m.files).entry_eq⟩
  have hsearch : onSearchPath? m "java" = some ⟨"/usr/bin/java"⟩ := by
    have hpaths : (searchDirectories m).map (fun d => (expandTilde m d).join "java")
        = [⟨"/usr/bin/java"⟩] := by decide +kernel
    have hprogram : m.isProgram ⟨"/usr/bin/java"⟩ = true := by
      unfold Machine.isProgram
      rw [hleads.find_eq (by decide)]
    unfold onSearchPath?
    rw [hpaths, List.find?_cons_of_pos hprogram]
  obtain ⟨-, hprograms, hgrounded⟩ := current_home_owns_launcher m
  obtain ⟨howner, hcurrent⟩ := hgrounded hm
  obtain ⟨hhome, hvalid⟩ := howner _ _ _ _ _ hleads (by decide)
  refine ⟨hm, hleads, hhome, hvalid, ?_⟩
  obtain ⟨hiff, -, -⟩ := hcurrent (onSearchPath? · "java") none
    (Property.Source.standard [] []).lookup hprograms
  exact (hiff _).mpr (.launcher rfl hsearch hleads (by decide))

/-! ## More links than are followed -/

/-- The target that a number of links more is needed from: each leads to the next, and the last one to the launcher
of a home. -/
def chainTarget : Nat → String
  | 0 => "/jdk/bin/java"
  | k + 1 => "/" ++ (k + 1).repr

/-- A launcher `/usr/bin/java` at the front of a chain of links that is one longer than what is followed. -/
def longChain : FileTree := ⟨
  [(["usr"], .directory), (["usr", "bin"], .directory),
    (["usr", "bin", "java"], .link (chainTarget linkLimit)),
    (["jdk"], .directory), (["jdk", "bin"], .directory), (["jdk", "bin", "java"], .file [] true)]
  ++ (List.range linkLimit).map fun k => ([(k + 1).repr], .link (chainTarget k))⟩

/-- The launcher of a home is reached through links, but one too many, and so it is taken to belong to the home
that its own path spells. -/
theorem long_chain_loses_home :
    let m : Machine := { files := longChain, workingDirectory := [], environment := [], accountHome := none }
    m.Leads ⟨"/usr/bin/java"⟩ (linkLimit + 1) (["jdk"] ++ ["bin", "java"], .file [] true) ∧
      Stands m.files ["jdk", "bin"] ∧ homeOf? m ⟨"/usr/bin/java"⟩ = some ⟨"/usr"⟩ ∧
      homeOf? m ⟨"/usr/bin/java"⟩ ≠ some (Location.path ["jdk"]) := by
  intro m
  have hname : ∀ name ∈ ["usr", "bin", "java", "jdk"], IsLookedFor name := by
    unfold IsLookedFor
    decide
  have hnames : targetNames "/usr/bin/java" = ["", "usr", "bin", "java"] ∧
      targetNames "/jdk/bin/java" = ["", "jdk", "bin", "java"] := by decide +kernel
  have hchain : ∀ k < linkLimit, IsLookedFor (k + 1).repr ∧
      longChain.entry? [(k + 1).repr] = some (.link (chainTarget k)) ∧
      targetNames (chainTarget (k + 1)) = ["", (k + 1).repr] := by
    unfold IsLookedFor
    decide +kernel
  have hlinks : ∀ k, k ≤ linkLimit → longChain.Leads [] (targetNames (chainTarget k)) k
      (["jdk", "bin", "java"], .file [] true) := by
    intro k hk
    induction k with
    | zero =>
      rw [chainTarget, hnames.2]
      exact .skip rfl (.down (hname _ (by simp)) rfl (.down (hname _ (by simp)) rfl
        (.file (hname _ (by simp)) rfl)))
    | succ k ih =>
      obtain ⟨hlooked, hentry, htarget⟩ := hchain k hk
      have hstart : targetStart (chainTarget k) [] = [] := by
        unfold targetStart
        split <;> rfl
      rw [htarget]
      refine .skip rfl (.link hlooked hentry ?_)
      rw [hstart, List.append_nil]
      exact ih (Nat.le_of_succ_le hk)
  have hleads : m.Leads ⟨"/usr/bin/java"⟩ (linkLimit + 1) (["jdk"] ++ ["bin", "java"], .file [] true) := by
    refine ⟨by decide, ?_⟩
    show longChain.Leads [] (targetNames "/usr/bin/java") _ _
    rw [hnames.1]
    refine .skip rfl (.down (hname _ (by simp)) rfl (.down (hname _ (by simp)) rfl
      (.link (hname _ (by simp)) rfl ?_)))
    rw [List.append_nil]
    exact hlinks linkLimit (Nat.le_refl _)
  have hstands : Stands m.files ["jdk", "bin"] := by
    have hjdk : Stands m.files ([] ++ ["jdk"]) := (stands_nil _).concat (by decide) rfl
    exact hjdk.concat (by decide) rfl
  have hnone : m.resolve? ⟨"/usr/bin/java"⟩ = none := by
    unfold Machine.resolve?
    cases hfind : m.find ⟨"/usr/bin/java"⟩ with
    | error e => rfl
    | ok place =>
      -- the way is determined, so no other one has fewer links
      obtain ⟨links, hle, hleads'⟩ := Machine.find_eq_ok_iff.mp hfind
      have hsame := hleads.leads.links_eq hleads'.leads
      omega
  have hhome : homeOf? m ⟨"/usr/bin/java"⟩ = some ⟨"/usr"⟩ := by
    rw [homeOf?_eq, hnone]
    decide +kernel
  refine ⟨hleads, hstands, hhome, ?_⟩
  rw [hhome]
  decide +kernel

end BuildJdk.Locate
