import Mathlib
import BuildJdk.Proofs.PathOrder
import BuildJdk.Proofs.Places

/-!
# What a scan finds

A scan goes down from its roots, by the names in each directory, through directories that stand for no home.
A `Trail` is one such way down. Main statement: a scan lists, in the order of paths and each once, just the
homes that the directories at the end of a trail of three names or fewer stand for.
-/

namespace BuildJdk.Scan

variable {m : Machine} {inside : List Location} {l below : Location} {path d home : Path}
  {name : String} {names : List String}

/-! ## Directories that stand for a home -/

/-- The home that a directory stands for: itself, or else the one in the bundle that it is. -/
inductive StandsFor (m : Machine) (d : Path) : Path → Prop
  | itself : Home.isValid m d = true → StandsFor m d d
  | bundle : Home.isValid m d = false →
      Home.isValid m ((d.join "Contents").join "Home") = true →
      StandsFor m d ((d.join "Contents").join "Home")

/-- These are the directories that are taken for homes. -/
theorem standsFor_iff : StandsFor m d home ↔ homeAt? m d = some home := by
  unfold homeAt?
  constructor
  · rintro (hv | ⟨hv, hb⟩)
    · rw [if_pos hv]
    · rw [if_neg (by simp [hv]), if_pos hb]
  · intro h
    dsimp only at h
    split at h
    · next hv =>
      cases h
      exact .itself hv
    · next hv =>
      split at h
      · next hb =>
        cases h
        exact .bundle (by simpa using hv) hb
      · cases h

theorem homeAt?_eq_none_iff : homeAt? m d = none ↔ ∀ home, ¬ StandsFor m d home := by
  rw [Option.eq_none_iff_forall_ne_some]
  exact forall_congr' fun home => not_congr standsFor_iff.symm

/-- A directory stands for one home at most. -/
theorem StandsFor.unique {home' : Path} (h : StandsFor m d home) (h' : StandsFor m d home') :
    home = home' := by
  rw [standsFor_iff] at h h'
  exact Option.some.inj (h.symm.trans h')

/-- A home that a directory stands for is a valid one. -/
theorem StandsFor.isValid (h : StandsFor m d home) : Home.isValid m home = true := by
  cases h with
  | itself hv => exact hv
  | bundle _ hb => exact hb

/-- The home is the directory or below it. -/
theorem StandsFor.exists_components (h : StandsFor m d home) :
    ∃ rest, home.components = d.components ++ rest := by
  cases h with
  | itself _ => exact ⟨[], by simp⟩
  | bundle _ _ =>
    refine ⟨[.name "Contents", .name "Home"], ?_⟩
    rw [Path.components_join_name (by decide), Path.components_join_name (by decide)]
    simp

/-- Spellings of a directory stand for spellings of a home. -/
theorem StandsFor.transport {d' : Path} (h : StandsFor m d home)
    (hd : d.components = d'.components) :
    ∃ home', StandsFor m d' home' ∧ home'.components = home.components := by
  have hvalid : ∀ {p q : Path}, p.components = q.components → Home.isValid m p = Home.isValid m q :=
    fun hpq => Home.isValid_eq (Machine.alike_of_components_eq m hpq)
  have hbundle : ((d.join "Contents").join "Home").components
      = ((d'.join "Contents").join "Home").components :=
    Path.components_join_congr (Path.components_join_congr hd _) _
  cases h with
  | itself hv => exact ⟨d', .itself (hvalid hd ▸ hv), hd.symm⟩
  | bundle hv hb => exact ⟨_, .bundle (hvalid hd ▸ hv) (hvalid hbundle ▸ hb), hbundle.symm⟩

/-! ## Going down -/

/-- A name in a directory leads to a directory below: one that stands there, or one that a link leads to,
unless the walk is inside of it. -/
inductive Enters (m : Machine) (inside : List Location) (l : Location) (name : String)
    (path : Path) : Location → Prop
  | directory : m.files.entry? (l ++ [name]) = some .directory →
      Enters m inside l name path (l ++ [name])
  | link {target : String} {below : Location} :
      m.files.entry? (l ++ [name]) = some (.link target) →
      m.find path = .ok (below, .directory) → below ∉ inside → Enters m inside l name path below

/-- These are the directories that the walk goes down into. -/
theorem enters_iff :
    Enters m inside l name path below ↔ subdirectory? m inside l name path = some below := by
  unfold subdirectory?
  constructor
  · rintro (hentry | ⟨hentry, hfind, hout⟩)
    · rw [hentry]
    · simp only [hentry, hfind]
      rw [if_neg (by simpa using hout)]
  · intro h
    split at h
    · next hentry =>
      cases h
      exact .directory hentry
    · next hentry =>
      split at h
      · next hfind =>
        split at h
        · cases h
        · next hout =>
          cases h
          exact .link hentry hfind (by simpa using hout)
      · cases h
    · cases h

/-- Going down from a directory by names, through directories that stand for no home. -/
inductive Trail (m : Machine) : List Location → Location → Path → List String → Path → Prop
  | here {inside : List Location} {l : Location} {path : Path} : Trail m inside l path [] path
  | down {inside : List Location} {l below : Location} {path d : Path} {name : String}
      {names : List String} : (∀ home, ¬ StandsFor m path home) →
      Enters m (l :: inside) l name (path.join name) below →
      Trail m (l :: inside) below (path.join name) names d →
      Trail m inside l path (name :: names) d

/-- The walk goes down into entries of the file tree only. -/
theorem Enters.exists_mem (h : Enters m inside l name path below) :
    ∃ e, (l ++ [name], e) ∈ m.files.entries := by
  have hmem : ∀ {e : Entry}, m.files.entry? (l ++ [name]) = some e →
      ∃ e, (l ++ [name], e) ∈ m.files.entries := by
    intro e he
    unfold FileTree.entry? at he
    rw [if_neg (by simp)] at he
    obtain ⟨front, back, hentries, -⟩ := List.lookup_eq_some_iff.mp he
    exact ⟨e, by simp [hentries]⟩
  cases h with
  | directory he => exact hmem he
  | link he _ _ => exact hmem he

theorem Enters.mem_namesIn (h : Enters m inside l name path below) :
    name ∈ m.files.namesIn l := by
  obtain ⟨e, hmem⟩ := h.exists_mem
  exact List.mem_filterMap.mpr ⟨_, hmem, by simp⟩

/-! ## The walk below one root -/

/-- The walk does not go below a home. -/
theorem walk_of_standsFor (h : StandsFor m path home) (depth : Nat) :
    walk m depth inside l path = [home] := by
  unfold walk
  rw [standsFor_iff.mp h]

theorem walk_zero (h : homeAt? m path = none) : walk m 0 inside l path = [] := by
  unfold walk
  rw [h]

/-- Where no home is, the walk goes on in each directory below. -/
theorem mem_walk_succ (h : homeAt? m path = none) {depth : Nat} :
    home ∈ walk m (depth + 1) inside l path ↔
      ∃ name below, Enters m (l :: inside) l name (path.join name) below ∧
        home ∈ walk m depth (l :: inside) below (path.join name) := by
  rw [walk, h]
  simp only [List.mem_flatMap]
  constructor
  · rintro ⟨name, -, hhome⟩
    cases hsub : subdirectory? m (l :: inside) l name (path.join name) with
    | none => simp [hsub] at hhome
    | some below =>
      rw [hsub] at hhome
      exact ⟨name, below, enters_iff.mpr hsub, hhome⟩
  · rintro ⟨name, below, hentry, hhome⟩
    refine ⟨name, hentry.mem_namesIn, ?_⟩
    rw [enters_iff.mp hentry]
    exact hhome

/-- There is no trail out of a directory that stands for a home. -/
theorem Trail.eq_here (h : Trail m inside l path names d) (hs : StandsFor m path home) :
    names = [] ∧ d = path := by
  cases h with
  | here => exact ⟨rfl, rfl⟩
  | down hnone _ _ => exact absurd hs (hnone home)

/-- The home at the end of a trail that is no longer than the walk goes down. -/
def EndsAt (m : Machine) (inside : List Location) (l : Location) (path : Path) (depth : Nat)
    (home : Path) : Prop :=
  ∃ names d, Trail m inside l path names d ∧ names.length ≤ depth ∧ StandsFor m d home

theorem endsAt_of_standsFor {found : Path} (h : StandsFor m path found) {depth : Nat} :
    EndsAt m inside l path depth home ↔ home = found := by
  constructor
  · rintro ⟨names, d, htrail, -, hs⟩
    obtain ⟨-, rfl⟩ := htrail.eq_here h
    exact hs.unique h
  · rintro rfl
    exact ⟨[], path, .here, Nat.zero_le _, h⟩

theorem not_endsAt_zero (h : ∀ home, ¬ StandsFor m path home) :
    ¬ EndsAt m inside l path 0 home := by
  rintro ⟨names, d, htrail, hlength, hs⟩
  cases htrail with
  | here => exact h home hs
  | down _ _ _ => simp at hlength

theorem endsAt_succ (h : ∀ home, ¬ StandsFor m path home) {depth : Nat} :
    EndsAt m inside l path (depth + 1) home ↔
      ∃ name below, Enters m (l :: inside) l name (path.join name) below ∧
        EndsAt m (l :: inside) below (path.join name) depth home := by
  constructor
  · rintro ⟨names, d, htrail, hlength, hs⟩
    cases htrail with
    | here => exact absurd hs (h home)
    | down _ hentry htrail =>
      exact ⟨_, _, hentry, _, d, htrail, Nat.le_of_succ_le_succ hlength, hs⟩
  · rintro ⟨name, below, hentry, names, d, htrail, hlength, hs⟩
    exact ⟨name :: names, d, .down h hentry htrail, Nat.succ_le_succ hlength, hs⟩

/-- A walk from a home finds that one and no other. -/
theorem mem_walk_of_standsFor {found : Path} (h : StandsFor m path found) {depth : Nat} :
    home ∈ walk m depth inside l path ↔ EndsAt m inside l path depth home := by
  rw [walk_of_standsFor h, List.mem_singleton, endsAt_of_standsFor h]

/-- A walk finds just what the directories at the end of its trails stand for. -/
theorem mem_walk_iff {depth : Nat} :
    home ∈ walk m depth inside l path ↔ EndsAt m inside l path depth home := by
  induction depth generalizing inside l path with
  | zero =>
    cases hat : homeAt? m path with
    | some found => exact mem_walk_of_standsFor (standsFor_iff.mpr hat)
    | none => simp [walk_zero hat, not_endsAt_zero (homeAt?_eq_none_iff.mp hat)]
  | succ depth ih =>
    cases hat : homeAt? m path with
    | some found => exact mem_walk_of_standsFor (standsFor_iff.mpr hat)
    | none =>
      rw [mem_walk_succ hat, endsAt_succ (homeAt?_eq_none_iff.mp hat)]
      exact exists_congr fun name => exists_congr fun below => and_congr_right fun _ => ih

/-! ## All roots -/

/-- A home that a scan of a root finds: the root is a directory, and a directory at most three levels below it
stands for the home, while no directory on the way down stands for one. -/
def Found (m : Machine) (root home : Path) : Prop :=
  ∃ l, m.find root = .ok (l, .directory) ∧ EndsAt m [] l root 3 home

variable {roots : List Path} {root p q : Path}

/-- Whatever is found is a valid home. -/
theorem Found.isValid (h : Found m root home) : Home.isValid m home = true := by
  obtain ⟨_, _, _, _, _, _, hs⟩ := h
  exact hs.isValid

/-- The walk under a root comes to the homes that are found there, and to no others. -/
theorem mem_homesUnder_iff : home ∈ homesUnder m root ↔ Found m root home := by
  unfold homesUnder
  constructor
  · intro h
    split at h
    · next l hfind => exact ⟨l, hfind, mem_walk_iff.mp h⟩
    · cases h
  · rintro ⟨l, hfind, h⟩
    rw [hfind]
    exact mem_walk_iff.mpr h

/-- The homes are in the order of their paths, and none is there twice. -/
theorem rising_homes (m : Machine) (roots : List Path) : Rising (homes m roots) :=
  rising_foldl_insert _ List.Pairwise.nil

/-- Every home is found under one of the roots. -/
theorem exists_root_of_mem_homes (h : p ∈ homes m roots) : ∃ root ∈ roots, Found m root p := by
  rcases mem_of_mem_foldl_insert h with h | h
  · cases h
  · obtain ⟨root, hroot, hp⟩ := List.mem_flatMap.mp h
    exact ⟨root, hroot, mem_homesUnder_iff.mp hp⟩

/-- A home that is found under a root is among the homes, maybe by another spelling of its path. -/
theorem Found.exists_mem_homes (h : Found m root p) (hroot : root ∈ roots) :
    ∃ q ∈ homes m roots, q.components = p.components :=
  exists_mem_foldl_insert [] (List.mem_flatMap.mpr ⟨root, hroot, mem_homesUnder_iff.mpr h⟩)

theorem mem_components_homes_iff {c : List Component} :
    c ∈ (homes m roots).map Path.components ↔
      ∃ root ∈ roots, ∃ p, Found m root p ∧ p.components = c := by
  rw [List.mem_map]
  constructor
  · rintro ⟨p, hp, hc⟩
    obtain ⟨root, hroot, hfound⟩ := exists_root_of_mem_homes hp
    exact ⟨root, hroot, p, hfound, hc⟩
  · rintro ⟨root, hroot, p, hfound, rfl⟩
    exact hfound.exists_mem_homes hroot

/-! ## Spellings of a root -/

theorem Enters.transport {path' : Path} (h : Enters m inside l name path below)
    (hpath : path.components = path'.components) : Enters m inside l name path' below := by
  cases h with
  | directory he => exact .directory he
  | link he hfind hout =>
    exact .link he ((Machine.alike_of_components_eq m hpath).find_directory_iff.mp hfind) hout

/-- A trail is followed as well from another spelling of its start. -/
theorem Trail.transport {path' : Path} (h : Trail m inside l path names d)
    (hpath : path.components = path'.components) :
    ∃ d', Trail m inside l path' names d' ∧ d.components = d'.components := by
  induction h generalizing path' with
  | here => exact ⟨path', .here, hpath⟩
  | @down inside l below path d name names hnone hentry _ ih =>
    have hjoin := Path.components_join_congr hpath name
    obtain ⟨d', htrail, hd⟩ := ih hjoin
    refine ⟨d', .down ?_ (hentry.transport hjoin) htrail, hd⟩
    intro home hs
    obtain ⟨home', hs', -⟩ := hs.transport hpath.symm
    exact hnone home' hs'

/-- Spellings of a root have spellings of the same homes below them. -/
theorem Found.transport {root' : Path} (h : Found m root p)
    (hroot : root.components = root'.components) :
    ∃ p', Found m root' p' ∧ p'.components = p.components := by
  obtain ⟨l, hfind, names, d, htrail, hlength, hs⟩ := h
  obtain ⟨d', htrail', hd⟩ := htrail.transport hroot
  obtain ⟨p', hs', hp⟩ := hs.transport hd
  have hfind' := (Machine.alike_of_components_eq m hroot).find_directory_iff.mp hfind
  exact ⟨p', ⟨l, hfind', names, d', htrail', hlength, hs'⟩, hp⟩

/-! ## Homes inside homes -/

/-- The entries of the tree have names that a directory may hold. -/
def WellNamed (t : FileTree) : Prop := ∀ l e, (l, e) ∈ t.entries → ∀ name ∈ l, IsName name

/-- A trail ends where the names along it lead. -/
theorem Trail.components_eq (h : Trail m inside l path names d) (hm : WellNamed m.files) :
    d.components = path.components ++ names.map .name := by
  induction h with
  | here => simp
  | @down inside l below path d name names _ hentry _ ih =>
    obtain ⟨e, he⟩ := hentry.exists_mem
    have hname : IsName name := hm _ e he name (by simp)
    rw [ih, Path.components_join_name hname]
    simp

/-- No trail leads on from a directory that stands for a home. -/
theorem Trail.eq_of_prefix {names' : List String} {d' : Path} (h : Trail m inside l path names d)
    (h' : Trail m inside l path names' d') (hinside : names <+: names')
    (hs : StandsFor m d home) : d = d' := by
  induction h generalizing names' with
  | here =>
    -- the other trail starts at a directory that stands for a home, so it ends there
    exact (h'.eq_here hs).2.symm
  | @down inside l below path d name names _ hentry _ ih =>
    cases h' with
    | here => simp at hinside
    | @down _ _ below' _ _ name' names' _ hentry' htrail' =>
      obtain ⟨rfl, hrest⟩ := List.cons_prefix_cons.mp hinside
      rw [enters_iff] at hentry hentry'
      obtain rfl := Option.some.inj (hentry.symm.trans hentry')
      exact ih htrail' hrest hs

/-- A home that is found below a root is not inside another one. -/
theorem Found.eq_of_prefix (hm : WellNamed m.files) (hp : Found m root p) (hq : Found m root q)
    (hinside : p.components <+: q.components) : p = q := by
  obtain ⟨l, hfind, names, d, htrail, -, hs⟩ := hp
  obtain ⟨l', hfind', names', d', htrail', -, hs'⟩ := hq
  rw [hfind] at hfind'
  cases hfind'
  obtain ⟨rest, hrest⟩ := hs.exists_components
  obtain ⟨rest', hrest'⟩ := hs'.exists_components
  have hpre : names.map Component.name <+: names'.map Component.name ++ rest' := by
    rw [hrest, hrest', htrail.components_eq hm, htrail'.components_eq hm, List.append_assoc,
      List.append_assoc, List.prefix_append_right_inj] at hinside
    exact (List.prefix_append _ _).trans hinside
  have hinj : Function.Injective Component.name := fun _ _ h => Component.name.inj h
  -- one trail continues the other, and cannot pass the directory that the other one ends at
  have hd : d = d' := by
    rcases List.prefix_or_prefix_of_prefix hpre (List.prefix_append _ rest') with h | h
    · exact htrail.eq_of_prefix htrail' ((List.prefix_map_iff_of_injective hinj).mp h) hs
    · exact (htrail'.eq_of_prefix htrail ((List.prefix_map_iff_of_injective hinj).mp h) hs').symm
  subst hd
  exact hs.unique hs'

/-! ## What is found -/

/-- Only the set of the roots matters, up to spellings. -/
theorem components_homes_congr {roots' : List Path}
    (hsame : ∀ c, c ∈ roots.map Path.components ↔ c ∈ roots'.map Path.components) :
    (homes m roots).map Path.components = (homes m roots').map Path.components := by
  have hsub : ∀ {roots roots' : List Path},
      (∀ c, c ∈ roots.map Path.components → c ∈ roots'.map Path.components) →
      ∀ c, c ∈ (homes m roots).map Path.components → c ∈ (homes m roots').map Path.components := by
    intro roots roots' hroots c hc
    obtain ⟨root, hroot, p, hfound, rfl⟩ := mem_components_homes_iff.mp hc
    obtain ⟨root', hroot', hcomponents⟩ := List.mem_map.mp (hroots _ (List.mem_map_of_mem hroot))
    obtain ⟨p', hfound', hp⟩ := hfound.transport hcomponents.symm
    exact mem_components_homes_iff.mpr ⟨root', hroot', p', hfound', hp⟩
  refine (rising_homes m roots).components_eq (rising_homes m roots') fun c => ⟨?_, ?_⟩
  · exact hsub (fun c => (hsame c).mp) c
  · exact hsub (fun c => (hsame c).mpr) c

/-- More roots add what is found below them. -/
theorem mem_components_homes_append {roots' : List Path} {c : List Component} :
    c ∈ (homes m (roots ++ roots')).map Path.components ↔
      c ∈ (homes m roots).map Path.components ∨ c ∈ (homes m roots').map Path.components := by
  simp only [mem_components_homes_iff, List.mem_append, or_and_right, exists_or]

/-- A scan lists what is found below its roots, in the order of paths and each path once. What it lists are
homes. Up to spellings, only the set of the roots matters, and more roots add what is found below them. Below
one root, no home is inside another. -/
theorem homes_iff_found (m : Machine) (roots : List Path) :
    (homes m roots).Pairwise (fun p q => p.compare q = .lt) ∧
    (∀ p ∈ homes m roots, ∃ root ∈ roots, Found m root p) ∧
    (∀ root ∈ roots, ∀ p, Found m root p →
      ∃ q ∈ homes m roots, q.components = p.components) ∧
    (∀ p ∈ homes m roots, Home.isValid m p = true) ∧
    (∀ roots', (∀ c, c ∈ roots.map Path.components ↔ c ∈ roots'.map Path.components) →
      (homes m roots).map Path.components = (homes m roots').map Path.components) ∧
    (∀ roots' c, c ∈ (homes m (roots ++ roots')).map Path.components ↔
      c ∈ (homes m roots).map Path.components ∨ c ∈ (homes m roots').map Path.components) ∧
    (WellNamed m.files → ∀ root, ∀ p ∈ homes m [root], ∀ q ∈ homes m [root],
      p.components <+: q.components → p = q) := by
  refine ⟨rising_homes m roots, fun p hp => exists_root_of_mem_homes hp,
    fun root hroot p hp => hp.exists_mem_homes hroot, fun p hp => ?_,
    fun roots' hsame => components_homes_congr hsame,
    fun roots' c => mem_components_homes_append, ?_⟩
  · obtain ⟨root, -, hfound⟩ := exists_root_of_mem_homes hp
    exact hfound.isValid
  · intro hm root p hp q hq hinside
    obtain ⟨root', hroot', hfound⟩ := exists_root_of_mem_homes hp
    obtain ⟨root'', hroot'', hfound'⟩ := exists_root_of_mem_homes hq
    rw [List.mem_singleton.mp hroot'] at hfound
    rw [List.mem_singleton.mp hroot''] at hfound'
    exact hfound.eq_of_prefix hm hfound' hinside

/-- A home below a root that also has a link back to itself. -/
theorem homes_iff_found_opt :
    let m : Machine := {
      files := ⟨[(["opt"], .directory), (["opt", "all"], .link "/opt"), (["opt", "jdk"], .directory),
        (["opt", "jdk", "bin"], .directory), (["opt", "jdk", "bin", "java"], .file [] true)]⟩
      workingDirectory := [], environment := [], accountHome := none }
    ∃ home ∈ homes m [⟨"/opt"⟩], home.components = [.root, .name "opt", .name "jdk"] ∧
      Home.isValid m home = true ∧ ∀ other ∈ homes m [⟨"/opt"⟩],
        home.components <+: other.components → home = other := by
  intro m
  have hname : IsName "jdk" ∧ IsName "Contents" ∧ IsName "Home" ∧ IsName "java" := by decide
  obtain ⟨hjdk, hcontents, hhome, hjava⟩ := hname
  have hsteps : Path.steps ⟨"/opt"⟩ = ["opt"] := by decide +kernel
  have hroot : m.find ⟨"/opt"⟩ = .ok (["opt"], .directory) := by
    rw [Machine.find_eq_directory_iff, hsteps]
    simp [m, Machine.start, Path.isAbsolute, FileTree.follow, FileTree.entry?, List.lookup]
  have hnone : ∀ home, ¬ StandsFor m ⟨"/opt"⟩ home := by
    have hself : Home.isValid m ⟨"/opt"⟩ = false := by
      have hfind : m.find (Home.program ⟨"/opt"⟩ "java") = .error .missing := by
        rw [Home.find_program hjava, hsteps]
        simp [m, Machine.start, Path.isAbsolute, FileTree.follow, FileTree.entry?, List.lookup]
      simp [Home.isValid, Machine.isFile, hfind]
    have hbundle : Home.isValid m (((⟨"/opt"⟩ : Path).join "Contents").join "Home") = false := by
      have hfind : m.find (Home.program (((⟨"/opt"⟩ : Path).join "Contents").join "Home") "java")
          = .error .missing := by
        rw [Home.find_program hjava, Machine.start_join hhome, Machine.start_join hcontents,
          Path.steps_join hhome, Path.steps_join hcontents, hsteps]
        simp [m, Machine.start, Path.isAbsolute, FileTree.follow, FileTree.entry?, List.lookup]
      simp [Home.isValid, Machine.isFile, hfind]
    rintro home (hv | ⟨-, hv⟩)
    · simp [hself] at hv
    · simp [hbundle] at hv
  have hvalid : Home.isValid m ((⟨"/opt"⟩ : Path).join "jdk") = true := by
    have hdirectory : m.find ((⟨"/opt"⟩ : Path).join "jdk") = .ok (["opt", "jdk"], .directory) := by
      rw [Machine.find_join hjdk, hsteps]
      simp [m, Machine.start, Path.isAbsolute, FileTree.follow, FileTree.entry?, List.lookup]
    have hprogram : m.find (Home.program ((⟨"/opt"⟩ : Path).join "jdk") "java")
        = .ok (["opt", "jdk", "bin", "java"], .file [] true) := by
      rw [Home.find_program hjava, Machine.start_join hjdk, Path.steps_join hjdk, hsteps]
      simp [m, Machine.start, Path.isAbsolute, FileTree.follow, FileTree.entry?, List.lookup]
    simp [Home.isValid, Machine.isDirectory, Machine.isFile, hdirectory, hprogram]
  have hfound : Found m ⟨"/opt"⟩ ((⟨"/opt"⟩ : Path).join "jdk") := by
    have hentry : Enters m [["opt"]] ["opt"] "jdk" ((⟨"/opt"⟩ : Path).join "jdk") ["opt", "jdk"] :=
      .directory (by simp [m, FileTree.entry?, List.lookup])
    exact ⟨["opt"], hroot, ["jdk"], _, .down hnone hentry .here, by decide, .itself hvalid⟩
  have hnamed : WellNamed m.files := by
    have hall : ∀ entry ∈ m.files.entries, ∀ name ∈ entry.1, IsName name := by decide
    exact fun l e he name hname => hall (l, e) he name hname
  obtain ⟨-, -, hcomplete, hhomes, -, -, hinside⟩ := homes_iff_found m [⟨"/opt"⟩]
  obtain ⟨home, hmem, hcomponents⟩ := hcomplete _ List.mem_cons_self _ hfound
  have hopt : Path.components ⟨"/opt"⟩ = [.root, .name "opt"] := by decide +kernel
  rw [Path.components_join_name hjdk, hopt] at hcomponents
  exact ⟨home, hmem, hcomponents, hhomes home hmem, hinside hnamed _ home hmem⟩

end BuildJdk.Scan
