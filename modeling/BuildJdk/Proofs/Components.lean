import BuildJdk.Path

/-!
# Paths as lists of components

How the components of a path go with its text: joining adds components at the end, a path without components
is the empty one, and the absolute form of a path has its components after those of the place where it starts.
-/

namespace BuildJdk

/-! ## Pieces -/

/-- A name that an entry of a directory may have. -/
structure IsName (s : String) : Prop where
  ne_empty : s ≠ ""
  ne_here : s ≠ "."
  ne_up : s ≠ ".."
  slash_not_mem : '/' ∉ s.toList

theorem isName_iff {s : String} :
    IsName s ↔ s ≠ "" ∧ s ≠ "." ∧ s ≠ ".." ∧ '/' ∉ s.toList :=
  ⟨fun h => ⟨h.ne_empty, h.ne_here, h.ne_up, h.slash_not_mem⟩, fun h => ⟨h.1, h.2.1, h.2.2.1, h.2.2.2⟩⟩

instance (s : String) : Decidable (IsName s) := decidable_of_iff _ isName_iff.symm

/-- No piece holds what a list is split at. -/
theorem not_mem_of_mem_splitOn {α : Type} [DecidableEq α] {separator : α} {s piece : List α}
    (h : piece ∈ s.splitOn separator) : separator ∉ piece := by
  induction s generalizing piece with
  | nil =>
    have hnil : piece = [] := by simpa using h
    simp [hnil]
  | cons c s ih =>
    rw [List.splitOn_cons_eq_if_modifyHead] at h
    by_cases hc : c = separator
    · rw [if_pos (by simp [hc])] at h
      rcases List.mem_cons.mp h with rfl | h
      · simp
      · exact ih h
    · rw [if_neg (by simp [hc])] at h
      obtain ⟨first, others, hsplit⟩ := List.exists_cons_of_ne_nil (List.splitOn_ne_nil separator s)
      rw [hsplit, List.modifyHead_cons] at h
      rcases List.mem_cons.mp h with rfl | h
      · have hfirst : separator ∉ first := ih (by simp [hsplit])
        simp [hfirst, Ne.symm hc]
      · exact ih (by simp [hsplit, h])

namespace Component

theorem text_of_ofPiece? {piece : List Char} {c : Component} (h : ofPiece? piece = some c) :
    c.text.toList = piece := by
  unfold ofPiece? at h
  split at h
  · cases h
  · split at h
    · cases h
      simp_all [text]
    · cases h
      simp [text]

/-- Only the front of a path is a root or a `.`. -/
theorem ne_of_ofPiece? {piece : List Char} {c : Component} (h : ofPiece? piece = some c) :
    c ≠ root ∧ c ≠ here := by
  unfold ofPiece? at h
  split at h
  · cases h
  · split at h <;> cases h <;> simp

theorem ofPiece?_of_isName {s : String} (hs : IsName s) : ofPiece? s.toList = some (name s) := by
  have hempty : s.toList ≠ [] := by simpa using hs.ne_empty
  have hhere : s.toList ≠ ['.'] := fun h => hs.ne_here (String.toList_inj.mp h)
  have hup : s.toList ≠ ['.', '.'] := fun h => hs.ne_up (String.toList_inj.mp h)
  unfold ofPiece?
  rw [if_neg (by simp [hempty, hhere]), if_neg hup, String.ofList_toList]

/-- The components that the pieces of a text stand for. -/
def ofText (s : String) : List Component := (s.toList.splitOn '/').filterMap ofPiece?

/-- A component that stands for a piece is spelled like it. -/
theorem ofText_text {s : String} {c : Component} (hc : c ∈ ofText s) :
    ofText c.text = [c] ∧ c.text.toList.head? ≠ some '/' := by
  obtain ⟨piece, hmem, hpiece⟩ := List.mem_filterMap.mp hc
  have htext := text_of_ofPiece? hpiece
  have hslash := not_mem_of_mem_splitOn hmem
  constructor
  · unfold ofText
    rw [htext, List.splitOn_eq_singleton hslash]
    simp [hpiece]
  · rw [htext]
    intro h
    exact hslash (List.mem_of_mem_head? h)

theorem ofText_of_isName {s : String} (hs : IsName s) : ofText s = [name s] := by
  unfold ofText
  rw [List.splitOn_eq_singleton hs.slash_not_mem]
  simp [ofPiece?_of_isName hs]

end Component

namespace Path

open Component

/-- The component at the front of a path that is no piece of it. -/
def front (p : Path) : List Component :=
  if p.isAbsolute then [.root] else if p.pieces.head? = some ['.'] then [.here] else []

theorem components_eq (p : Path) : p.components = p.front ++ ofText p.text := rfl

/-- Without its front, a path has only the components of its pieces. -/
theorem ofText_eq_filter (p : Path) :
    ofText p.text = p.components.filter fun c => c ≠ .root ∧ c ≠ .here := by
  have hfront : p.front.filter (fun c => c ≠ .root ∧ c ≠ .here) = [] := by
    unfold front
    split
    · rfl
    · split <;> rfl
  have htext : ∀ c ∈ ofText p.text, c ≠ .root ∧ c ≠ .here := by
    intro c hc
    obtain ⟨piece, -, hpiece⟩ := List.mem_filterMap.mp hc
    exact ne_of_ofPiece? hpiece
  rw [components_eq, List.filter_append, hfront, List.nil_append]
  exact (List.filter_eq_self.mpr fun c hc => decide_eq_true (htext c hc)).symm

theorem pieces_ne_nil (p : Path) : p.pieces ≠ [] := List.splitOn_ne_nil _ _

/-- The first piece of a relative path is empty only if the path is. -/
theorem text_eq_of_head?_pieces {p : Path} (hrel : p.isAbsolute = false)
    (h : p.pieces.head? = some []) : p.text = "" := by
  cases hs : p.text.toList with
  | nil => exact String.toList_eq_nil_iff.mp hs
  | cons c rest =>
    have hc : c ≠ '/' := by
      simpa [isAbsolute, hs] using hrel
    rw [pieces, hs, List.splitOn_cons_eq_if_modifyHead, if_neg (by simpa using hc)] at h
    obtain ⟨first, others, hsplit⟩ :=
      List.exists_cons_of_ne_nil (List.splitOn_ne_nil '/' rest)
    rw [hsplit] at h
    simp at h

/-- The empty path is the only one without components. -/
theorem components_eq_nil_iff {p : Path} : p.components = [] ↔ p.text = "" := by
  constructor
  · intro h
    rw [components_eq, List.append_eq_nil_iff] at h
    obtain ⟨hfront, htext⟩ := h
    have hrel : p.isAbsolute = false := by
      cases habs : p.isAbsolute with
      | false => rfl
      | true => simp [front, habs] at hfront
    have hdot : p.pieces.head? ≠ some ['.'] := by
      intro hhead
      simp [front, hrel, hhead] at hfront
    obtain ⟨first, others, hpieces⟩ := List.exists_cons_of_ne_nil p.pieces_ne_nil
    -- the first piece is no component, so it is empty or a dot; a dot in front would be one
    have hnone : ofPiece? first = none := by
      have : first ∈ p.pieces := by simp [hpieces]
      exact List.filterMap_eq_nil_iff.mp htext first this
    apply text_eq_of_head?_pieces hrel
    rw [hpieces, List.head?_cons] at hdot ⊢
    unfold ofPiece? at hnone
    split at hnone
    · next hcase =>
      rcases hcase with rfl | rfl
      · rfl
      · exact absurd rfl hdot
    · split at hnone <;> cases hnone
  · intro h
    rw [components_eq, front, isAbsolute, pieces, ofText, h]
    decide

/-- A path is absolute if it starts at the root. -/
theorem isAbsolute_iff {p : Path} : p.isAbsolute = true ↔ p.components.head? = some .root := by
  have hfalse : ∀ (first : Component), (ofText p.text).head? = some first → first ≠ .root := by
    intro first hfirst
    have hmem : first ∈ ofText p.text := List.mem_of_mem_head? hfirst
    obtain ⟨piece, -, hpiece⟩ := List.mem_filterMap.mp hmem
    exact (ne_of_ofPiece? hpiece).1
  rw [components_eq, front]
  cases habs : p.isAbsolute with
  | true => simp
  | false =>
    by_cases hdot : p.pieces.head? = some ['.']
    · simp [hdot]
    · simp only [hdot, Bool.false_eq_true, if_false, List.nil_append, false_iff]
      intro h
      exact hfalse _ h rfl

/-! ## Joining -/

/-- Joining puts a slash in between, unless the path ends with one. -/
theorem exists_toList_join {p : Path} {rest : String} (hne : p.text ≠ "")
    (hrel : rest.toList.head? ≠ some '/') :
    ∃ u, (p.join rest).text.toList = u ++ '/' :: rest.toList ∧
      (p.text.toList = u ∨ p.text.toList = u ++ ['/']) := by
  unfold join
  rw [if_neg hrel]
  by_cases hlast : p.text.toList.getLast? = some '/'
  · rw [if_pos (Or.inr hlast)]
    obtain ⟨u, hu⟩ := List.getLast?_eq_some_iff.mp hlast
    exact ⟨u, by simp [hu], Or.inr hu⟩
  · rw [if_neg (by simp [hne, hlast])]
    exact ⟨p.text.toList, by simp, Or.inl rfl⟩

theorem head?_splitOn_append (u v : List Char) :
    ((u ++ '/' :: v).splitOn '/').head? = (u.splitOn '/').head? := by
  obtain ⟨first, others, hsplit⟩ := List.exists_cons_of_ne_nil (List.splitOn_ne_nil '/' u)
  rw [List.splitOn_append_cons_self, hsplit]
  rfl

/-- A relative path that is joined adds its pieces. -/
theorem components_join {p : Path} {rest : String} (hne : p.text ≠ "")
    (hrel : rest.toList.head? ≠ some '/') :
    (p.join rest).components = p.components ++ ofText rest := by
  obtain ⟨u, hjoin, hp⟩ := exists_toList_join hne hrel
  have hu : u = [] → p.text.toList = ['/'] := by
    rintro rfl
    rcases hp with hp | hp
    · exact absurd (String.toList_eq_nil_iff.mp hp) hne
    · simpa using hp
  -- the front depends on whether the path is absolute and on its first piece
  have habs : (p.join rest).isAbsolute = p.isAbsolute := by
    unfold isAbsolute
    rw [hjoin]
    cases u with
    | nil => simp [hu rfl]
    | cons c u => rcases hp with hp | hp <;> simp [hp]
  have hhead : (p.join rest).pieces.head? = p.pieces.head? := by
    unfold pieces
    rw [hjoin, head?_splitOn_append]
    rcases hp with hp | hp
    · rw [hp]
    · rw [hp, head?_splitOn_append]
  have htext : ofText (p.join rest).text = ofText p.text ++ ofText rest := by
    unfold ofText
    rw [hjoin, List.splitOn_append_cons_self, List.filterMap_append]
    rcases hp with hp | hp
    · rw [hp]
    · rw [hp, List.splitOn_append_cons_self, List.filterMap_append]
      simp [ofPiece?]
  rw [components_eq, components_eq, htext, front, front, habs, hhead, List.append_assoc]

theorem join_eq_of_text_eq_empty {p : Path} (hp : p.text = "") (rest : String) :
    p.join rest = ⟨rest⟩ := by
  unfold join
  by_cases hrest : rest.toList.head? = some '/'
  · rw [if_pos hrest]
  · rw [if_neg hrest, if_pos (Or.inl hp), hp]
    simp

/-- Joining respects the components. -/
theorem components_join_congr {p q : Path} (h : p.components = q.components) (rest : String) :
    (p.join rest).components = (q.join rest).components := by
  by_cases hp : p.text = ""
  · have hq : q.text = "" := by rwa [← components_eq_nil_iff, ← h, components_eq_nil_iff]
    rw [join_eq_of_text_eq_empty hp, join_eq_of_text_eq_empty hq]
  · have hq : q.text ≠ "" := by
      rwa [ne_eq, ← components_eq_nil_iff, ← h, components_eq_nil_iff]
    by_cases hrest : rest.toList.head? = some '/'
    · unfold join
      rw [if_pos hrest, if_pos hrest]
    · rw [components_join hp hrest, components_join hq hrest, h]

theorem head?_ne_slash {name : String} (hname : IsName name) : name.toList.head? ≠ some '/' := by
  intro h
  exact hname.slash_not_mem (List.mem_of_mem_head? h)

/-- A name by itself has no front. -/
theorem front_of_isName {name : String} (hname : IsName name) : front ⟨name⟩ = [] := by
  have habs : isAbsolute ⟨name⟩ = false := by
    simpa [isAbsolute] using head?_ne_slash hname
  have hpieces : pieces ⟨name⟩ = [name.toList] := List.splitOn_eq_singleton hname.slash_not_mem
  have hdot : name.toList ≠ ['.'] := fun h => hname.ne_here (String.toList_inj.mp h)
  simp [front, habs, hpieces, hdot]

/-- A name that is joined is one component more. -/
theorem components_join_name {name : String} (hname : IsName name) (p : Path) :
    (p.join name).components = p.components ++ [.name name] := by
  by_cases hp : p.text = ""
  · rw [join_eq_of_text_eq_empty hp, components_eq_nil_iff.mpr hp, components_eq,
      front_of_isName hname, ofText_of_isName hname]
  · rw [components_join hp (head?_ne_slash hname), ofText_of_isName hname]

/-- A joined name keeps a path absolute or relative. -/
theorem isAbsolute_join {name : String} (hname : IsName name) (p : Path) :
    (p.join name).isAbsolute = p.isAbsolute := by
  rw [Bool.eq_iff_iff, isAbsolute_iff, isAbsolute_iff, components_join_name hname]
  cases p.components <;> simp

theorem text_join_ne_empty {name : String} (hname : IsName name) (p : Path) :
    (p.join name).text ≠ "" := by
  rw [ne_eq, ← components_eq_nil_iff, components_join_name hname]
  simp

/-- A name that is joined is the last piece. -/
theorem exists_pieces_join {name : String} (hname : IsName name) (p : Path) :
    ∃ pieces, (p.join name).pieces = pieces ++ [name.toList] := by
  have hpiece := List.splitOn_eq_singleton hname.slash_not_mem
  by_cases hp : p.text = ""
  · rw [join_eq_of_text_eq_empty hp]
    exact ⟨[], hpiece⟩
  · obtain ⟨u, hjoin, -⟩ := exists_toList_join hp (head?_ne_slash hname)
    refine ⟨u.splitOn '/', ?_⟩
    rw [pieces, hjoin, List.splitOn_append_cons_self, hpiece]

/-! ## Absolute paths -/

theorem components_foldl_join {cs : List Component} (hcs : ∀ c ∈ cs, ofText c.text = [c] ∧
    c.text.toList.head? ≠ some '/') {q : Path} (hq : q.text ≠ "") :
    (cs.foldl (fun q c => q.join c.text) q).components = q.components ++ cs := by
  induction cs generalizing q with
  | nil => simp
  | cons c cs ih =>
    obtain ⟨htext, hrel⟩ := hcs c List.mem_cons_self
    have hjoin : (q.join c.text).components = q.components ++ [c] := by
      rw [components_join hq hrel, htext]
    have hne : (q.join c.text).text ≠ "" := by
      rw [ne_eq, ← components_eq_nil_iff, hjoin]
      simp
    rw [List.foldl_cons, ih (fun d hd => hcs d (List.mem_cons_of_mem _ hd)) hne, hjoin]
    simp

/-- A slash at the end is no component. -/
theorem components_join_empty {q : Path} (hq : q.text ≠ "") :
    (q.join "").components = q.components := by
  rw [components_join hq (by simp), ofText]
  simp [ofPiece?]

theorem absoluteStart_of_isAbsolute {p : Path} (habs : p.isAbsolute = true) (base : Path) :
    (p.absoluteStart base).components = [.root] := by
  unfold absoluteStart
  split
  · decide
  · decide

theorem absoluteStart_of_relative {p : Path} (hrel : p.isAbsolute = false) (base : Path) :
    p.absoluteStart base = base := by
  have hdouble : p.hasDoubleRoot = false := by
    unfold hasDoubleRoot
    split
    · rfl
    · next h => simp [isAbsolute, h] at hrel
    · rfl
  simp [absoluteStart, hdouble, hrel]

/-- The absolute form of a path has its components, after those of the base if the path is relative. -/
theorem components_absolute {p base : Path} (hp : p.text ≠ "") (hbase : base.text ≠ "") :
    (p.absolute base).components
      = (if p.isAbsolute then [.root] else base.components) ++ ofText p.text := by
  have hstart : (p.absoluteStart base).components
      = if p.isAbsolute then [.root] else base.components := by
    cases habs : p.isAbsolute with
    | true => simpa using absoluteStart_of_isAbsolute habs base
    | false => simp [absoluteStart_of_relative habs]
  have hne : (p.absoluteStart base).text ≠ "" := by
    rw [ne_eq, ← components_eq_nil_iff, hstart]
    split
    · simp
    · rwa [components_eq_nil_iff]
  have hjoined := components_foldl_join (fun c hc => ofText_text (s := p.text) hc) hne
  rw [hstart] at hjoined
  unfold absolute
  rw [if_neg hp, ← ofText_eq_filter]
  dsimp only
  split
  · rw [components_join_empty, hjoined]
    rw [ne_eq, ← components_eq_nil_iff, hjoined]
    split
    · simp
    · simp [components_eq_nil_iff, hbase]
  · exact hjoined

/-- A path that is not empty has an absolute form, if the base is absolute. -/
theorem isAbsolute_absolute {p base : Path} (hp : p.text ≠ "") (hbase : base.isAbsolute = true) :
    (p.absolute base).isAbsolute = true := by
  have hne : base.text ≠ "" := by
    intro hempty
    simp [isAbsolute, hempty] at hbase
  rw [isAbsolute_iff] at hbase ⊢
  rw [components_absolute hp hne]
  split
  · rfl
  · rw [List.head?_append, hbase, Option.some_or]

end Path

end BuildJdk
