import BuildJdk.Home
import BuildJdk.Proofs.Components

/-!
# Places that paths lead to

Where a path leads depends on its components only, as far as directories go: empty names and `.` are passed
over. A file is found only if nothing comes after it, so there the last name must count too.

`Alike` paths lead to the same places, whatever is joined to them. Main statements: paths of the same
components are alike, and so are a path and its absolute form.
-/

namespace BuildJdk

namespace FileTree

/-! ## Names that are passed over -/

/-- A name that leads on. -/
def isStep (name : String) : Bool := name ≠ "" && name ≠ "."

/-- Nothing that is passed over comes last. -/
def EndsInStep (names : List String) : Prop :=
  ∀ name, names.getLast? = some name → isStep name = true

variable {t : FileTree} {links : Nat} {here : Location} {name : String} {names rest : List String}

/-- A name that is passed over takes no step. -/
theorem follow_skip (hname : isStep name = false) :
    follow t links here (name :: rest) = follow t links here rest := by
  have hskip : name = "" ∨ name = "." := by
    by_cases h : name = ""
    · exact Or.inl h
    · refine Or.inr ?_
      simpa [isStep, h] using hname
  rw [follow, if_pos hskip]

theorem follow_append_of_skipped {skipped : List String}
    (hs : ∀ name ∈ skipped, isStep name = false) :
    follow t links here (skipped ++ rest) = follow t links here rest := by
  induction skipped with
  | nil => rfl
  | cons name skipped ih =>
    rw [List.cons_append, follow_skip (hs name List.mem_cons_self)]
    exact ih fun other hother => hs other (List.mem_cons_of_mem _ hother)

/-- What ends in a step still does without names in front. -/
theorem EndsInStep.of_append {front : List String} (h : EndsInStep (front ++ name :: rest)) :
    EndsInStep rest := by
  intro last hlast
  apply h
  rw [List.getLast?_append, List.getLast?_cons, hlast]
  rfl

theorem EndsInStep.of_cons (h : EndsInStep (name :: rest)) : EndsInStep rest := by
  have hfront : EndsInStep ([] ++ name :: rest) := h
  exact hfront.of_append

theorem EndsInStep.append {front : List String} (h : EndsInStep rest) (hne : rest ≠ []) :
    EndsInStep (front ++ rest) := by
  intro last hlast
  apply h
  rw [List.getLast?_append] at hlast
  obtain ⟨other, hother⟩ := Option.isSome_iff_exists.mp (List.getLast?_isSome.mpr hne)
  rw [hother] at hlast ⊢
  exact hlast

/-- Names that end in a step and have no step are none. -/
theorem EndsInStep.eq_nil (h : EndsInStep names) (hnone : names.filter isStep = []) : names = [] := by
  rcases List.eq_nil_or_concat names with rfl | ⟨front, last, rfl⟩
  · rfl
  · have hlast := h last (by simp)
    simp [hlast] at hnone

/-! ## The same steps -/

/-- Lists that both end in a step, or a view of the outcome that does not tell a file where no more names
come from one where names come that are passed over. -/
def EndsAlike {β : Type} (g : Except FindError (Location × Entry) → β) (names names' : List String) :
    Prop :=
  (EndsInStep names ∧ EndsInStep names') ∨
    ∀ l bytes executable, g (.ok (l, .file bytes executable)) = g (.error .notDirectory)

section

variable {β : Type} {g : Except FindError (Location × Entry) → β} {rest' : List String}

/-- A list of the same steps leads on by the same name. -/
theorem exists_follow_eq {names' : List String} (hname : isStep name = true)
    (hsame : (name :: rest).filter isStep = names'.filter isStep)
    (hends : EndsAlike g (name :: rest) names') (t : FileTree) (links : Nat) (here : Location) :
    ∃ rest', follow t links here names' = follow t links here (name :: rest') ∧
      rest.filter isStep = rest'.filter isStep ∧ EndsAlike g rest rest' := by
  rw [List.filter_cons_of_pos hname] at hsame
  obtain ⟨skipped, rest', rfl, hskipped, -, hrest⟩ := List.filter_eq_cons_iff.mp hsame.symm
  refine ⟨rest', ?_, hrest.symm, ?_⟩
  · apply follow_append_of_skipped
    intro other hother
    simpa using hskipped other hother
  · exact hends.imp_left fun h => ⟨h.1.of_cons, h.2.of_append⟩

/-- At a file it matters only whether more names come. -/
theorem EndsAlike.file_eq (h : EndsAlike g rest rest')
    (hsame : rest.filter isStep = rest'.filter isStep) (l : Location) (bytes : List UInt8)
    (executable : Bool) :
    g (if rest = [] then .ok (l, .file bytes executable) else .error .notDirectory)
      = g (if rest' = [] then .ok (l, .file bytes executable) else .error .notDirectory) := by
  rcases h with ⟨hends, hends'⟩ | hg
  · have hiff : rest = [] ↔ rest' = [] := by
      constructor
      · rintro rfl
        exact hends'.eq_nil hsame.symm
      · rintro rfl
        exact hends.eq_nil hsame
    simp only [hiff]
  · by_cases hrest : rest = [] <;> by_cases hrest' : rest' = [] <;> simp [hrest, hrest', hg]

/-- Names in front make no difference to how two lists of names end. -/
theorem EndsAlike.append (h : EndsAlike g rest rest')
    (hsame : rest.filter isStep = rest'.filter isStep) (front : List String) :
    rest = rest' ∨ EndsAlike g (front ++ rest) (front ++ rest') := by
  rcases h with ⟨hends, hends'⟩ | hg
  · by_cases hrest : rest = []
    · subst hrest
      exact Or.inl (hends'.eq_nil hsame.symm).symm
    · have hrest' : rest' ≠ [] := by
        rintro rfl
        exact hrest (hends.eq_nil hsame)
      exact Or.inr (Or.inl ⟨hends.append hrest, hends'.append hrest'⟩)
  · exact Or.inr (Or.inr hg)

/-- Following the same steps comes to the same. -/
theorem follow_congr {names' : List String} (hsame : names.filter isStep = names'.filter isStep)
    (hends : EndsAlike g names names') :
    g (follow t links here names) = g (follow t links here names') := by
  fun_induction follow t links here names generalizing names' with
  | case1 links here =>
    have hskipped : ∀ name ∈ names', isStep name = false := by
      intro name hname
      simpa using List.filter_eq_nil_iff.mp hsame.symm name hname
    have hskip : follow t links here (names' ++ []) = follow t links here [] :=
      follow_append_of_skipped hskipped
    rw [List.append_nil] at hskip
    rw [hskip, follow]
  | case2 links here name rest hskip ih =>
    have hname : isStep name = false := by
      rcases hskip with rfl | rfl <;> rfl
    rw [List.filter_cons_of_neg (by simp [hname])] at hsame
    exact ih hsame (hends.imp_left fun h => ⟨h.1.of_cons, h.2⟩)
  | case3 links here rest hstep ih =>
    obtain ⟨rest', hfollow, hrest, hends'⟩ := exists_follow_eq (by decide) hsame hends t links here
    rw [hfollow, follow, if_neg hstep, if_pos rfl]
    exact ih hrest hends'
  | case4 links here name rest hstep hup hentry =>
    have hname : isStep name = true := by simpa [isStep] using hstep
    obtain ⟨rest', hfollow, -, -⟩ := exists_follow_eq hname hsame hends t links here
    rw [hfollow, follow, if_neg hstep, if_neg hup, hentry]
  | case5 links here name rest hstep hup hentry ih =>
    have hname : isStep name = true := by simpa [isStep] using hstep
    obtain ⟨rest', hfollow, hrest, hends'⟩ := exists_follow_eq hname hsame hends t links here
    rw [hfollow, follow, if_neg hstep, if_neg hup, hentry]
    exact ih hrest hends'
  | case6 links here name hstep hup bytes executable hentry =>
    have hname : isStep name = true := by simpa [isStep] using hstep
    obtain ⟨rest', hfollow, hrest, hends'⟩ := exists_follow_eq hname hsame hends t links here
    rw [hfollow, follow, if_neg hstep, if_neg hup, hentry]
    exact hends'.file_eq hrest _ bytes executable
  | case7 links here name rest hstep hup bytes executable hentry hmore =>
    have hname : isStep name = true := by simpa [isStep] using hstep
    obtain ⟨rest', hfollow, hrest, hends'⟩ := exists_follow_eq hname hsame hends t links here
    rw [hfollow, follow, if_neg hstep, if_neg hup, hentry]
    have hfile := hends'.file_eq hrest (here ++ [name]) bytes executable
    rwa [if_neg hmore] at hfile
  | case8 here name rest hstep hup target hentry =>
    have hname : isStep name = true := by simpa [isStep] using hstep
    obtain ⟨rest', hfollow, -, -⟩ := exists_follow_eq hname hsame hends t 0 here
    rw [hfollow, follow, if_neg hstep, if_neg hup, hentry]
  | case9 here name rest hstep hup target hentry links path =>
    rename_i ih
    have hname : isStep name = true := by simpa [isStep] using hstep
    obtain ⟨rest', hfollow, hrest, hends'⟩ :=
      exists_follow_eq hname hsame hends t (links + 1) here
    rw [hfollow, follow, if_neg hstep, if_neg hup, hentry]
    -- the names of the target come first on both sides
    rcases hends'.append hrest (path.pieces.map String.ofList) with rfl | hends''
    · rfl
    · refine ih ?_ hends''
      rw [List.filter_append, List.filter_append, hrest]

end

end FileTree

namespace Path

open Component FileTree

/-- The names in a path that lead on. -/
def steps (p : Path) : List String := (p.pieces.map String.ofList).filter isStep

theorem steps_eq (p : Path) : p.steps = (ofText p.text).map (·.text) := by
  unfold steps ofText pieces
  induction p.text.toList.splitOn '/' with
  | nil => rfl
  | cons piece pieces ih =>
    -- the pieces that are steps are those that give a component
    have hstep : isStep (String.ofList piece) = (ofPiece? piece).isSome := by
      by_cases hnone : piece = [] ∨ piece = ['.']
      · rcases hnone with rfl | rfl <;> decide
      · have hpiece : ofPiece? piece ≠ none := by
          unfold ofPiece?
          rw [if_neg hnone]
          split <;> simp
        have hne : String.ofList piece ≠ "" ∧ String.ofList piece ≠ "." := by
          constructor
          · intro h
            exact hnone (Or.inl (String.ofList_injective h))
          · intro h
            exact hnone (Or.inr (String.ofList_injective h))
        simp [isStep, hne, Option.isSome_iff_ne_none, hpiece]
    cases hc : ofPiece? piece with
    | none =>
      rw [hc] at hstep
      simpa [hc, hstep] using ih
    | some c =>
      have htext : c.text = String.ofList piece := by
        rw [← text_of_ofPiece? hc, String.ofList_toList]
      rw [hc] at hstep
      simpa [hc, hstep, htext] using ih

/-- The steps of a path are known from its components. -/
theorem steps_of_components_eq {p q : Path} (h : p.components = q.components) :
    p.steps = q.steps := by
  rw [steps_eq, steps_eq, ofText_eq_filter, ofText_eq_filter, h]

/-- A joined name is one step more. -/
theorem steps_join {name : String} (hname : IsName name) (p : Path) :
    (p.join name).steps = p.steps ++ [name] := by
  rw [steps_eq, steps_eq, ofText_eq_filter, ofText_eq_filter, components_join_name hname,
    List.filter_append, List.map_append]
  rfl

end Path

namespace Machine

open FileTree

variable {m : Machine} {p q : Path} {name : String} {l : Location}

/-- Where following a path starts. -/
def start (m : Machine) (p : Path) : Location := if p.isAbsolute then [] else m.workingDirectory

theorem start_join (hname : IsName name) (m : Machine) (p : Path) :
    m.start (p.join name) = m.start p := by
  rw [start, Path.isAbsolute_join hname]
  rfl

theorem find_eq_follow (m : Machine) (hp : p.text ≠ "") :
    m.find p = m.files.follow linkLimit (m.start p) (p.pieces.map String.ofList) :=
  if_neg hp

/-- A directory is found by the steps of a path. -/
theorem find_eq_directory_iff : m.find p = .ok (l, .directory) ↔
    p.text ≠ "" ∧ m.files.follow linkLimit (m.start p) p.steps = .ok (l, .directory) := by
  by_cases hp : p.text = ""
  · have hmissing : m.find p = .error .missing := if_pos hp
    simp [hmissing, hp]
  · have hsame : (p.pieces.map String.ofList).filter isStep = p.steps.filter isStep := by
      rw [Path.steps, List.filter_filter]
      simp
    have hcongr : (m.files.follow linkLimit (m.start p) (p.pieces.map String.ofList)
          = .ok (l, .directory))
        = (m.files.follow linkLimit (m.start p) p.steps = .ok (l, .directory)) :=
      follow_congr (g := (· = .ok (l, .directory))) hsame (Or.inr fun _ _ _ => by simp)
    rw [find_eq_follow m hp, hcongr]
    simp [hp]

/-- What a path leads to that ends in a name is found by its steps. -/
theorem find_join (hname : IsName name) (m : Machine) (p : Path) :
    m.find (p.join name) = m.files.follow linkLimit (m.start p) (p.steps ++ [name]) := by
  have hstep : isStep name = true := by
    simp [isStep, hname.ne_empty, hname.ne_here]
  have hsame : ((p.join name).pieces.map String.ofList).filter isStep
      = (p.steps ++ [name]).filter isStep := by
    rw [← Path.steps_join hname, Path.steps, List.filter_filter]
    simp
  have hends : EndsInStep ((p.join name).pieces.map String.ofList) := by
    obtain ⟨front, hpieces⟩ := Path.exists_pieces_join hname p
    intro last hlast
    rw [hpieces] at hlast
    have hlast' : last = name := by simpa using hlast.symm
    rw [hlast', hstep]
  have hends' : EndsInStep (p.steps ++ [name]) := by
    intro last hlast
    have hlast' : last = name := by simpa using hlast.symm
    rw [hlast', hstep]
  rw [find_eq_follow m (Path.text_join_ne_empty hname p), start_join hname]
  exact follow_congr (g := id) hsame (Or.inl ⟨hends, hends'⟩)

/-! ## Paths that lead alike -/

/-- Paths that lead to the same place, whatever steps come after them. -/
structure Alike (m : Machine) (p q : Path) : Prop where
  text_eq_empty_iff : p.text = "" ↔ q.text = ""
  follow_eq : ∀ names, m.files.follow linkLimit (m.start p) (p.steps ++ names)
    = m.files.follow linkLimit (m.start q) (q.steps ++ names)

/-- Paths with the same components lead alike. -/
theorem alike_of_components_eq (m : Machine) (h : p.components = q.components) : m.Alike p q where
  text_eq_empty_iff := by
    rw [← Path.components_eq_nil_iff, h, Path.components_eq_nil_iff]
  follow_eq names := by
    have habs : p.isAbsolute = q.isAbsolute := by
      rw [Bool.eq_iff_iff, Path.isAbsolute_iff, Path.isAbsolute_iff, h]
    rw [start, start, habs, Path.steps_of_components_eq h]

theorem Alike.find_directory_iff (h : m.Alike p q) :
    m.find p = .ok (l, .directory) ↔ m.find q = .ok (l, .directory) := by
  have hfollow := h.follow_eq []
  rw [List.append_nil, List.append_nil] at hfollow
  rw [find_eq_directory_iff, find_eq_directory_iff, hfollow, ne_eq, h.text_eq_empty_iff]

/-- A name is found alike below paths that lead alike. -/
theorem Alike.find_join_eq (h : m.Alike p q) (hname : IsName name) :
    m.find (p.join name) = m.find (q.join name) := by
  rw [find_join hname, find_join hname, h.follow_eq]

/-- Paths that lead alike still do with one name more. -/
theorem Alike.join (h : m.Alike p q) (hname : IsName name) :
    m.Alike (p.join name) (q.join name) where
  text_eq_empty_iff := by
    simp [Path.text_join_ne_empty hname]
  follow_eq names := by
    rw [Path.steps_join hname, Path.steps_join hname, List.append_assoc, List.append_assoc,
      start_join hname, start_join hname]
    exact h.follow_eq _

theorem isDirectory_iff : m.isDirectory p = true ↔ ∃ l, m.find p = .ok (l, .directory) := by
  unfold isDirectory
  split
  · next l hfind => simp [hfind]
  · next hnot =>
    simp only [Bool.false_eq_true, false_iff]
    rintro ⟨l, hfind⟩
    exact hnot l hfind

/-- Paths that lead alike lead to a directory both or neither. -/
theorem Alike.isDirectory_eq (h : m.Alike p q) : m.isDirectory p = m.isDirectory q := by
  rw [Bool.eq_iff_iff, isDirectory_iff, isDirectory_iff]
  exact exists_congr fun l => h.find_directory_iff

end Machine

/-! ## Absolute paths -/

theorem Component.filterMap_ofPiece? {names : List String} (hnames : ∀ name ∈ names, IsName name) :
    (names.map String.toList).filterMap ofPiece? = names.map .name := by
  induction names with
  | nil => rfl
  | cons name names ih =>
    rw [List.map_cons, List.filterMap_cons_some (ofPiece?_of_isName (hnames name List.mem_cons_self)),
      ih fun other hother => hnames other (List.mem_cons_of_mem _ hother), List.map_cons]

/-- The path of a location starts at the root. -/
theorem Location.isAbsolute_path (l : Location) : l.path.isAbsolute = true := by
  simp [Location.path, Path.isAbsolute]

open Component in
/-- The path of a location has its names as components. -/
theorem Location.components_path {l : Location} (hl : ∀ name ∈ l, IsName name) :
    l.path.components = .root :: l.map .name := by
  have habs : l.path.isAbsolute = true := l.isAbsolute_path
  have hpieces : l.path.pieces = [] :: (String.intercalate "/" l).toList.splitOn '/' := by
    simp [Location.path, Path.pieces, List.splitOn_cons_eq_if_modifyHead]
  have htoList : ("/" : String).toList = ['/'] := rfl
  rw [Path.components]
  simp only [habs, if_true, hpieces, String.toList_intercalate, htoList, List.singleton_append]
  congr 1
  cases l with
  | nil => decide
  | cons first others =>
    have hslash : ∀ piece ∈ (first :: others).map String.toList, '/' ∉ piece := by
      intro piece hpiece
      obtain ⟨name, hname, rfl⟩ := List.mem_map.mp hpiece
      exact (hl name hname).slash_not_mem
    rw [List.splitOn_intercalate '/' hslash (by simp), List.filterMap_cons_none (by decide),
      filterMap_ofPiece? hl]

namespace FileTree

variable {t : FileTree} {names rest : List String}

/-- Names that lead from directory to directory are followed one by one. -/
theorem follow_append_of_directories {links : Nat} {here : Location}
    (hnames : ∀ name ∈ names, IsName name)
    (hdirs : ∀ front name, front ++ [name] <+: names →
      t.entry? (here ++ front ++ [name]) = some .directory) :
    follow t links here (names ++ rest) = follow t links (here ++ names) rest := by
  induction names generalizing here with
  | nil => simp
  | cons name names ih =>
    have hname := hnames name List.mem_cons_self
    have hentry : t.entry? (here ++ [name]) = some .directory := by
      have h := hdirs [] name ⟨names, rfl⟩
      rwa [List.append_nil] at h
    rw [List.cons_append, follow, if_neg (by simp [hname.ne_empty, hname.ne_here]),
      if_neg hname.ne_up, hentry]
    dsimp only
    rw [ih (fun other hother => hnames other (List.mem_cons_of_mem _ hother))]
    · simp
    · intro front other hfront
      have h := hdirs (name :: front) other (List.prefix_cons_inj name |>.mpr hfront)
      simpa using h

end FileTree

namespace Machine

open FileTree Component

/-- Every path has an absolute form, except the empty one. -/
theorem isAbsolute_absolute (m : Machine) {p : Path} (hp : p.text ≠ "") :
    (m.absolute p).isAbsolute = true :=
  Path.isAbsolute_absolute hp m.workingDirectory.isAbsolute_path

/-- The working directory is a directory of the machine, and so is each one above it. -/
structure Grounded (m : Machine) : Prop where
  isName : ∀ name ∈ m.workingDirectory, IsName name
  entry_eq : ∀ front name, front ++ [name] <+: m.workingDirectory →
    m.files.entry? (front ++ [name]) = some .directory

variable {m : Machine} {p : Path}

/-- The names of the working directory lead to it, along no link. -/
theorem Grounded.follow_append (hm : m.Grounded) (links : Nat) (names : List String) :
    m.files.follow links [] (m.workingDirectory ++ names)
      = m.files.follow links m.workingDirectory names := by
  rw [follow_append_of_directories hm.isName fun front name hfront => by
    simpa using hm.entry_eq front name hfront, List.nil_append]

/-- The absolute form has the components of the path after those of the place where it starts. -/
theorem Grounded.components_absolute (hm : m.Grounded) (hp : p.text ≠ "") :
    (m.absolute p).components
      = .root :: ((if p.isAbsolute then [] else m.workingDirectory.map .name) ++ ofText p.text) := by
  have hpath := Location.components_path hm.isName
  have hbase : m.workingDirectory.path.text ≠ "" := by
    rw [ne_eq, ← Path.components_eq_nil_iff, hpath]
    simp
  rw [absolute, Path.components_absolute hp hbase, hpath]
  split <;> rfl

/-- The absolute form has the steps of the path, after those to the working directory if the path is relative.
-/
theorem Grounded.steps_absolute (hm : m.Grounded) (hp : p.text ≠ "") :
    (m.absolute p).steps = (if p.isAbsolute then [] else m.workingDirectory) ++ p.steps := by
  have hfilter : (ofText p.text).filter (fun c => c ≠ .root ∧ c ≠ .here) = ofText p.text := by
    rw [Path.ofText_eq_filter, List.filter_filter]
    simp
  have hnames : ∀ names : List String,
      (names.map Component.name).filter (fun c => c ≠ .root ∧ c ≠ .here)
        = names.map Component.name := by
    intro names
    rw [List.filter_eq_self]
    simp
  rw [Path.steps_eq, Path.steps_eq, Path.ofText_eq_filter, hm.components_absolute hp,
    List.filter_cons_of_neg (by simp), List.filter_append, hfilter, List.map_append]
  congr 1
  split
  · rfl
  · rw [hnames, List.map_map]
    exact List.map_id _

/-- A path leads to the same places as its absolute form. -/
theorem Grounded.alike_absolute (hm : m.Grounded) (p : Path) : m.Alike p (m.absolute p) := by
  by_cases hp : p.text = ""
  · have heq : m.absolute p = p := if_pos hp
    rw [heq]
    exact alike_of_components_eq m rfl
  · constructor
    · have hne : (m.absolute p).text ≠ "" := by
        rw [ne_eq, ← Path.components_eq_nil_iff, hm.components_absolute hp]
        simp
      simp [hp, hne]
    · intro names
      rw [start, start, m.isAbsolute_absolute hp, hm.steps_absolute hp, if_pos rfl]
      cases p.isAbsolute with
      | true => rfl
      | false =>
        -- the absolute form goes to the working directory first
        simp only [Bool.false_eq_true, if_false]
        rw [List.append_assoc, hm.follow_append]

end Machine

/-! ## Java homes -/

namespace Home

theorem isName_bin : IsName "bin" := by decide

variable {m : Machine} {p q : Path} {name : String}

/-- What a program of a home is found by. -/
theorem find_program (hname : IsName name) (m : Machine) (home : Path) :
    m.find (program home name)
      = m.files.follow FileTree.linkLimit (m.start home) (home.steps ++ ["bin", name]) := by
  rw [program, Machine.find_join hname, Path.steps_join isName_bin, Machine.start_join isName_bin,
    List.append_assoc]
  rfl

theorem find_program_eq (h : m.Alike p q) (hname : IsName name) :
    m.find (program p name) = m.find (program q name) :=
  (h.join isName_bin).find_join_eq hname

/-- Paths that lead alike lead to a home both or neither. -/
theorem isValid_eq (h : m.Alike p q) : isValid m p = isValid m q := by
  have hjava : m.find (program p "java") = m.find (program q "java") :=
    find_program_eq h (by decide)
  unfold isValid
  rw [h.isDirectory_eq, Machine.isFile, Machine.isFile, hjava]

end Home

end BuildJdk
