import BuildJdk.Proofs.Places

/-!
# Ways along links

`Leads` says where names lead without a limit on links: it follows as many as there are, also links to links, links
with relative targets and links in the middle, and counts them. Names lead to one place at most, through one number
of links, and a path is followed to just the places that its names lead to through no more links than the limit.

From a directory that stands in directories only, names lead to another one or to a file in one.
-/

namespace BuildJdk

namespace FileTree

variable {t : FileTree} {here l : Location} {name : String} {names rest : List String} {links links' n : Nat}
  {place place' : Location × Entry}

/-- A name that is looked for in a directory. -/
def IsLookedFor (name : String) : Prop := isStep name = true ∧ name ≠ ".."

/-- The names that the target of a link leads on by, and where they start. -/
def targetNames (target : String) : List String := (Path.pieces ⟨target⟩).map String.ofList

/-- Where the target of a link in a directory starts. -/
def targetStart (target : String) (here : Location) : Location :=
  if Path.isAbsolute ⟨target⟩ then [] else here

/-- Names lead from a directory to a place and what stands there, through a number of links. -/
inductive Leads (t : FileTree) : Location → List String → Nat → Location × Entry → Prop
  | here {here : Location} : Leads t here [] 0 (here, .directory)
  | skip {here : Location} {name : String} {rest : List String} {links : Nat} {place : Location × Entry} :
      isStep name = false → Leads t here rest links place → Leads t here (name :: rest) links place
  | up {here : Location} {rest : List String} {links : Nat} {place : Location × Entry} :
      Leads t here.dropLast rest links place → Leads t here (".." :: rest) links place
  | down {here : Location} {name : String} {rest : List String} {links : Nat} {place : Location × Entry} :
      IsLookedFor name → t.entry? (here ++ [name]) = some .directory →
      Leads t (here ++ [name]) rest links place → Leads t here (name :: rest) links place
  | file {here : Location} {name : String} {bytes : List UInt8} {executable : Bool} :
      IsLookedFor name → t.entry? (here ++ [name]) = some (.file bytes executable) →
      Leads t here [name] 0 (here ++ [name], .file bytes executable)
  | link {here : Location} {name target : String} {rest : List String} {links : Nat}
      {place : Location × Entry} :
      IsLookedFor name → t.entry? (here ++ [name]) = some (.link target) →
      Leads t (targetStart target here) (targetNames target ++ rest) links place →
      Leads t here (name :: rest) (links + 1) place

/-! ## Following -/

theorem follow_lookedFor (hname : IsLookedFor name) : follow t links here (name :: rest) =
    match t.entry? (here ++ [name]) with
    | none => .error .missing
    | some .directory => follow t links (here ++ [name]) rest
    | some (.file bytes executable) =>
      if rest = [] then .ok (here ++ [name], .file bytes executable) else .error .notDirectory
    | some (.link target) =>
      match links with
      | 0 => .error .tooManyLinks
      | links + 1 => follow t links (targetStart target here) (targetNames target ++ rest) := by
  obtain ⟨hstep, hup⟩ := hname
  have hskip : ¬ (name = "" ∨ name = ".") := by simpa [isStep] using hstep
  rw [follow, if_neg hskip, if_neg hup]
  rfl

theorem isLookedFor_of_ne (hskip : ¬ (name = "" ∨ name = ".")) (hup : name ≠ "..") : IsLookedFor name :=
  ⟨by simpa [isStep] using hskip, hup⟩

/-- What is found by following names is led to, through as many links as were followed or fewer. -/
theorem exists_leads_of_follow (h : follow t n here names = .ok place) :
    ∃ links, links ≤ n ∧ Leads t here names links place := by
  -- the cases are those of the search: names that are passed over, `..`, and what stands at a name that is looked for
  fun_induction follow t n here names with
  | case1 n here =>
    cases h
    exact ⟨0, Nat.zero_le n, .here⟩
  | case2 n here name rest hskip ih =>
    obtain ⟨links, hle, hleads⟩ := ih h
    have hname : isStep name = false := by
      rcases hskip with rfl | rfl <;> rfl
    exact ⟨links, hle, .skip hname hleads⟩
  | case3 n here rest hskip ih =>
    obtain ⟨links, hle, hleads⟩ := ih h
    exact ⟨links, hle, .up hleads⟩
  | case4 => cases h
  | case5 n here name rest hskip hup hentry ih =>
    obtain ⟨links, hle, hleads⟩ := ih h
    exact ⟨links, hle, .down (isLookedFor_of_ne hskip hup) hentry hleads⟩
  | case6 n here name hskip hup bytes executable hentry =>
    cases h
    exact ⟨0, Nat.zero_le n, .file (isLookedFor_of_ne hskip hup) hentry⟩
  | case7 => cases h
  | case8 => cases h
  | case9 here name rest hskip hup target hentry n path ih =>
    obtain ⟨links, hle, hleads⟩ := ih h
    exact ⟨links + 1, Nat.succ_le_succ hle, .link (isLookedFor_of_ne hskip hup) hentry hleads⟩

/-- Names are followed to where they lead, if the limit allows for the links on the way. -/
theorem Leads.follow_eq (h : Leads t here names links place) (hle : links ≤ n) :
    follow t n here names = .ok place := by
  induction h generalizing n with
  | here => rw [follow]
  | skip hname _ ih => rw [follow_skip hname, ih hle]
  | up _ ih =>
    rw [follow, if_neg (by decide), if_pos rfl]
    exact ih hle
  | down hname hentry _ ih =>
    rw [follow_lookedFor hname, hentry]
    exact ih hle
  | file hname hentry =>
    rw [follow_lookedFor hname, hentry]
    exact if_pos rfl
  | link hname hentry _ ih =>
    cases n with
    | zero => cases hle
    | succ n =>
      rw [follow_lookedFor hname, hentry]
      exact ih (Nat.le_of_succ_le_succ hle)

/-- Following names comes to the place that they lead to, unless there are too many links on the way. -/
theorem follow_eq_ok_iff :
    follow t n here names = .ok place ↔ ∃ links, links ≤ n ∧ Leads t here names links place :=
  ⟨exists_leads_of_follow, fun ⟨_, hle, h⟩ => h.follow_eq hle⟩

/-- The way of the names is determined, and so is the number of links on it. -/
theorem Leads.links_eq (h : Leads t here names links place) (h' : Leads t here names links' place') :
    links = links' := by
  -- a name allows one step only, as names that are passed over, `..` and names that are looked for exclude each other
  induction h generalizing links' with
  | here => cases h' with | here => rfl
  | skip hname _ ih =>
    cases h' with
    | skip _ h' => exact ih h'
    | up _ => cases hname
    | down hname' | file hname' | link hname' => rw [hname'.1] at hname; cases hname
  | up _ ih =>
    cases h' with
    | skip hname' => cases hname'
    | up h' => exact ih h'
    | down hname' | file hname' | link hname' => exact absurd rfl hname'.2
  | down hname hentry _ ih =>
    cases h' with
    | skip hname' => rw [hname.1] at hname'; cases hname'
    | up _ => exact absurd rfl hname.2
    | down _ _ h' => exact ih h'
    | file _ hentry' | link _ hentry' => cases hentry.symm.trans hentry'
  | file hname hentry =>
    cases h' with
    | skip hname' => rw [hname.1] at hname'; cases hname'
    | up _ => exact absurd rfl hname.2
    | down _ hentry' | link _ hentry' => cases hentry.symm.trans hentry'
    | file _ _ => rfl
  | link hname hentry _ ih =>
    cases h' with
    | skip hname' => rw [hname.1] at hname'; cases hname'
    | up _ => exact absurd rfl hname.2
    | down _ hentry' | file _ hentry' => cases hentry.symm.trans hentry'
    | link _ hentry' h' =>
      cases hentry.symm.trans hentry'
      exact congrArg (· + 1) (ih h')

/-! ## Directories that stand in directories -/

/-- A directory stands at the location and at each one above it, so that no link is on the way down. -/
structure Stands (t : FileTree) (l : Location) : Prop where
  isName : ∀ name ∈ l, IsName name
  entry_eq : ∀ front name, front ++ [name] <+: l → t.entry? (front ++ [name]) = some .directory

theorem stands_nil (t : FileTree) : Stands t [] := by
  refine ⟨nofun, fun front name h => ?_⟩
  have hnil := List.prefix_nil.mp h
  simp at hnil

/-- A directory above one that stands, stands as well. -/
theorem Stands.of_prefix {below : Location} (h : Stands t below) (hl : l <+: below) : Stands t l :=
  ⟨fun name hname => h.isName name (hl.subset hname),
    fun front name hfront => h.entry_eq front name (hfront.trans hl)⟩

/-- A directory in one that stands, stands as well. -/
theorem Stands.concat (h : Stands t l) (hname : IsName name)
    (hentry : t.entry? (l ++ [name]) = some .directory) : Stands t (l ++ [name]) := by
  refine ⟨fun other hother => ?_, fun front other hfront => ?_⟩
  · rcases List.mem_append.mp hother with hother | hother
    · exact h.isName other hother
    · rwa [List.mem_singleton.mp hother]
  · rcases List.prefix_concat_iff.mp hfront with heq | hfront
    · rw [heq, hentry]
    · exact h.entry_eq front other hfront

/-- A directory that stands in directories, or a file in one. -/
inductive IsPlace (t : FileTree) : Location × Entry → Prop
  | directory {l : Location} : Stands t l → IsPlace t (l, .directory)
  | file {l : Location} {name : String} {bytes : List UInt8} {executable : Bool} : Stands t l →
      IsName name → t.entry? (l ++ [name]) = some (.file bytes executable) →
      IsPlace t (l ++ [name], .file bytes executable)

theorem IsLookedFor.isName (h : IsLookedFor name) (hslash : '/' ∉ name.toList) : IsName name := by
  obtain ⟨hstep, hup⟩ := h
  simp only [isStep, Bool.and_eq_true, decide_eq_true_eq] at hstep
  exact ⟨hstep.1, hstep.2, hup, hslash⟩

theorem slash_not_mem_of_mem_pieces {p : Path} (h : name ∈ p.pieces.map String.ofList) :
    '/' ∉ name.toList := by
  obtain ⟨piece, hpiece, rfl⟩ := List.mem_map.mp h
  rw [String.toList_ofList]
  exact not_mem_of_mem_splitOn hpiece

/-- Names without slashes lead from a directory to places. -/
theorem Leads.isPlace (h : Leads t here names links place) (hhere : Stands t here)
    (hnames : ∀ name ∈ names, '/' ∉ name.toList) : IsPlace t place := by
  induction h with
  | here => exact .directory hhere
  | skip _ _ ih => exact ih hhere fun name hname => hnames name (List.mem_cons_of_mem _ hname)
  | up _ ih =>
    exact ih (hhere.of_prefix (List.dropLast_prefix _))
      fun name hname => hnames name (List.mem_cons_of_mem _ hname)
  | down hname hentry _ ih =>
    have hisName := hname.isName (hnames _ List.mem_cons_self)
    exact ih (hhere.concat hisName hentry)
      fun name hname => hnames name (List.mem_cons_of_mem _ hname)
  | file hname hentry => exact .file hhere (hname.isName (hnames _ List.mem_cons_self)) hentry
  | @link here _ target _ _ _ _ _ _ ih =>
    refine ih ?_ fun name hname => ?_
    · unfold targetStart
      split
      · exact stands_nil t
      · exact hhere
    · rcases List.mem_append.mp hname with hname | hname
      · exact slash_not_mem_of_mem_pieces hname
      · exact hnames name (List.mem_cons_of_mem _ hname)

end FileTree

namespace Machine

open FileTree

variable {m : Machine} {p : Path} {links : Nat} {place : Location × Entry}

/-- A path leads to a place through a number of links. -/
structure Leads (m : Machine) (p : Path) (links : Nat) (place : Location × Entry) : Prop where
  text_ne : p.text ≠ ""
  leads : m.files.Leads (m.start p) (p.pieces.map String.ofList) links place

/-- A place is found by a path just if the path leads to it through no more links than are followed. -/
theorem find_eq_ok_iff :
    m.find p = .ok place ↔ ∃ links, links ≤ linkLimit ∧ m.Leads p links place := by
  by_cases hp : p.text = ""
  · have hmissing : m.find p = .error .missing := if_pos hp
    rw [hmissing]
    exact iff_of_false nofun fun ⟨_, _, h⟩ => h.text_ne hp
  · rw [find_eq_follow m hp, follow_eq_ok_iff]
    exact ⟨fun ⟨links, hle, h⟩ => ⟨links, hle, hp, h⟩, fun ⟨links, hle, h⟩ => ⟨links, hle, h.leads⟩⟩

theorem Leads.find_eq (h : m.Leads p links place) (hle : links ≤ linkLimit) : m.find p = .ok place :=
  find_eq_ok_iff.mpr ⟨links, hle, h⟩

theorem Grounded.stands (hm : m.Grounded) : Stands m.files m.workingDirectory :=
  ⟨hm.isName, hm.entry_eq⟩

theorem Leads.isPlace (hm : m.Grounded) (h : m.Leads p links place) : IsPlace m.files place := by
  apply h.leads.isPlace
  · unfold start
    split
    · exact stands_nil m.files
    · exact hm.stands
  · exact fun name hname => slash_not_mem_of_mem_pieces hname

/-- The path of a directory leads to it, with no links on the way. -/
theorem follow_path_append {l : Location} {names : List String} (hl : Stands m.files l) :
    m.files.follow linkLimit (m.start l.path) (l.path.steps ++ names)
      = m.files.follow linkLimit l names := by
  have hcomponents := Location.components_path hl.isName
  have habs : l.path.isAbsolute = true := by
    rw [Path.isAbsolute_iff, hcomponents, List.head?_cons]
  have hsteps : l.path.steps = l := by
    rw [Path.steps_eq, Path.ofText_eq_filter, hcomponents, List.filter_cons_of_neg (by simp),
      List.filter_eq_self.mpr (by simp), List.map_map]
    exact List.map_id l
  rw [start, if_pos habs, hsteps, follow_append_of_directories hl.isName fun front name hfront => by
    simpa using hl.entry_eq front name hfront, List.nil_append]

end Machine

end BuildJdk
