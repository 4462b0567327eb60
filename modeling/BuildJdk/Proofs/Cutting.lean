import BuildJdk.FileTree
import BuildJdk.Proofs.Components
import BuildJdk.Proofs.Trimming

/-!
# Cutting the last component off

The parent and the file name of a path are found by looking at its characters from the end, past the slashes and
dots that make no difference. Said of components, the parent has all but the last one, and the file name is the
last one if it is a name. Only the root and the empty path have no parent.

The path of a location is spelled without such slashes and dots, so its parent is the path of the location above.
-/

namespace BuildJdk

/-- The text of a component that is a name. -/
def Component.name? : Component → Option String
  | .name s => some s
  | _ => none

theorem Component.name?_eq_some_iff {c : Component} {s : String} : c.name? = some s ↔ c = .name s := by
  cases c <;> simp [name?]

namespace Path

open Component Text

variable {p q : Path} {name : String} {r s u v : List Char} {c : Component}

/-! ## Characters at the end that make no difference -/

theorem ofText_append_cons (s v : List Char) :
    ofText (String.ofList (s ++ '/' :: v)) = ofText (String.ofList s) ++ ofText (String.ofList v) := by
  simp only [ofText, String.toList_ofList, List.splitOn_append_cons_self, List.filterMap_append]

theorem components_append_cons (hs : s ≠ []) (v : List Char) :
    components ⟨String.ofList (s ++ '/' :: v)⟩
      = components ⟨String.ofList s⟩ ++ ofText (String.ofList v) := by
  have hfront : front ⟨String.ofList (s ++ '/' :: v)⟩ = front ⟨String.ofList s⟩ := by
    have habs : (s ++ '/' :: v).head? = s.head? := by
      obtain ⟨c, s, rfl⟩ := List.exists_cons_of_ne_nil hs
      rfl
    simp only [front, isAbsolute, pieces, String.toList_ofList, habs, head?_splitOn_append]
  rw [components_eq, components_eq, hfront, ofText_append_cons, List.append_assoc]

theorem components_slash_cons (v : List Char) :
    components ⟨String.ofList ('/' :: v)⟩ = .root :: ofText (String.ofList v) := by
  have hfront : front ⟨String.ofList ('/' :: v)⟩ = [.root] := by simp [front, isAbsolute]
  have hnil : ofText (String.ofList []) = [] := by decide
  rw [components_eq, hfront, ← List.nil_append ('/' :: v), ofText_append_cons, hnil]
  rfl

/-- What comes after the last slash adds its components. -/
theorem components_append (s v : List Char) : components ⟨String.ofList (s ++ '/' :: v)⟩
    = components ⟨String.ofList (s ++ ['/'])⟩ ++ ofText (String.ofList v) := by
  have hnil : ofText (String.ofList []) = [] := by decide
  by_cases hs : s = []
  · subst hs
    rw [List.nil_append, List.nil_append, components_slash_cons, components_slash_cons, hnil]
    rfl
  · rw [components_append_cons hs, components_append_cons hs, hnil, List.append_nil]

/-- What is dropped at the end of a path is no component of it. -/
theorem components_settle (r : List Char) :
    components ⟨String.ofList (settle r).reverse⟩ = components ⟨String.ofList r.reverse⟩ := by
  fun_induction settle r with
  | case1 c rest ih =>
    have hnil : ofText (String.ofList []) = [] := by decide
    rw [ih, List.reverse_cons (a := '/'), components_append_cons (by simp), hnil, List.append_nil]
  | case2 rest ih =>
    have hdot : ofText (String.ofList ['.']) = [] := by decide
    have hsplit : ('.' :: '/' :: rest).reverse = rest.reverse ++ '/' :: ['.'] := by simp
    rw [ih, hsplit, components_append, hdot, List.append_nil, List.reverse_cons]
  | case3 => rfl

/-- A piece that counts is kept, and so is all in front of it. -/
theorem settle_append (hv : v ≠ []) (hslash : '/' ∉ v) (hdot : v ≠ ['.']) (u : List Char) :
    settle (v ++ u) = v ++ u := by
  obtain ⟨c, v, rfl⟩ := List.exists_cons_of_ne_nil hv
  have hc : c ≠ '/' := fun h => hslash (by simp [h])
  rw [List.cons_append]
  unfold settle
  split
  · next heq => exact absurd (List.cons.inj heq).1 hc
  · next rest heq =>
    -- the dot would be all of the piece
    obtain ⟨rfl, htail⟩ := List.cons.inj heq
    cases v with
    | nil => exact absurd rfl hdot
    | cons d v =>
      obtain ⟨rfl, -⟩ := List.cons.inj htail
      simp at hslash
  · rfl

/-- Characters that do not start with a slash start with a piece. -/
theorem exists_piece (hne : r ≠ []) (hr : r.head? ≠ some '/') :
    ∃ v u, r = v ++ u ∧ v ≠ [] ∧ '/' ∉ v ∧ (u = [] ∨ ∃ u', u = '/' :: u') := by
  refine ⟨r.takeWhile (· ≠ '/'), r.dropWhile (· ≠ '/'), List.takeWhile_append_dropWhile.symm, ?_,
    fun hmem => by simpa using of_mem_takeWhile hmem, ?_⟩
  · obtain ⟨c, rest, rfl⟩ := List.exists_cons_of_ne_nil hne
    have hc : c ≠ '/' := fun heq => hr (by rw [heq]; rfl)
    rw [List.takeWhile_cons_of_pos (by simpa using hc)]
    exact List.cons_ne_nil _ _
  · cases hdrop : r.dropWhile (· ≠ '/') with
    | nil => exact Or.inl rfl
    | cons d u =>
      have hd := of_head?_dropWhile (p := (· ≠ '/')) (s := r) (by rw [hdrop]; rfl)
      obtain rfl : d = '/' := by simpa using hd
      exact Or.inr ⟨u, rfl⟩

theorem settle_cases (r : List Char) : settle r = [] ∨ settle r = ['/'] ∨ settle r = ['.'] ∨
    ∃ v u, settle r = v ++ u ∧ v ≠ [] ∧ '/' ∉ v ∧ v ≠ ['.'] ∧ (u = [] ∨ ∃ u', u = '/' :: u') := by
  fun_induction settle r with
  | case1 c rest ih => exact ih
  | case2 rest ih => exact ih
  | case3 r hslashes hdot =>
    by_cases hne : r = []
    · exact Or.inl hne
    · by_cases hr : r.head? = some '/'
      · obtain ⟨rest, rfl⟩ := List.head?_eq_some_iff.mp hr
        cases rest with
        | nil => exact Or.inr (Or.inl rfl)
        | cons d rest => exact absurd rfl (hslashes d rest)
      · obtain ⟨v, u, rfl, hv, hslash, hu⟩ := exists_piece hne hr
        by_cases hhere : v = ['.']
        · subst hhere
          rcases hu with rfl | ⟨u, rfl⟩
          · exact Or.inr (Or.inr (Or.inl rfl))
          · exact absurd rfl (hdot u)
        · exact Or.inr (Or.inr (Or.inr ⟨v, u, rfl, hv, hslash, hhere, hu⟩))

/-! ## The last component -/

theorem exists_ofPiece? (hv : v ≠ []) (hdot : v ≠ ['.']) : ∃ c, ofPiece? v = some c := by
  unfold ofPiece?
  rw [if_neg (by simp [hv, hdot])]
  split <;> exact ⟨_, rfl⟩

theorem ofText_of_piece (hslash : '/' ∉ v) (hc : ofPiece? v = some c) : ofText (String.ofList v) = [c] := by
  rw [ofText, String.toList_ofList, List.splitOn_eq_singleton hslash, List.filterMap_cons_some hc,
    List.filterMap_nil]

/-- A piece by itself has its component and no more. -/
theorem components_of_piece (hslash : '/' ∉ v) (hdot : v ≠ ['.']) (hc : ofPiece? v = some c) :
    components ⟨String.ofList v⟩ = [c] := by
  have hfront : front ⟨String.ofList v⟩ = [] := by
    have habs : v.head? ≠ some '/' := fun hhead => hslash (List.mem_of_mem_head? hhead)
    simp [front, isAbsolute, pieces, List.splitOn_eq_singleton hslash, hdot, habs]
  rw [components_eq, hfront, ofText_of_piece hslash hc, List.nil_append]

/-- What is cut off is nothing of the root and of the empty path, the dot of a path that is one, and else the last
piece, whose component is the last one. -/
theorem cutLast_cases (p : Path) :
    (p.cutLast.1 = [] ∧ (p.components = [] ∨ p.components = [.root])) ∨
    (p.cutLast = (['.'], []) ∧ p.components = [.here]) ∨
    ∃ c, ofPiece? p.cutLast.1.reverse = some c ∧
      p.components = components ⟨String.ofList p.cutLast.2.reverse⟩ ++ [c] := by
  have hcomponents := components_settle p.text.toList.reverse
  rw [List.reverse_reverse, String.ofList_toList] at hcomponents
  rw [← hcomponents]
  unfold cutLast
  -- read from its end, a settled text starts with its last piece
  rcases settle_cases p.text.toList.reverse with h | h | h | ⟨v, u, h, hv, hslash, hdot, hu⟩
  · rw [h]
    decide
  · rw [h]
    decide
  · rw [h]
    decide
  · have hplain : ∀ c ∈ v, decide (c ≠ '/') = true :=
      fun c hc => decide_eq_true fun heq => hslash (heq ▸ hc)
    have hstop : ∀ c, u.head? = some c → decide (c ≠ '/') = false := by
      rcases hu with rfl | ⟨u', rfl⟩
      · exact nofun
      · rintro _ ⟨⟩
        decide
    have hslash' : '/' ∉ v.reverse := by simpa using hslash
    have hdot' : v.reverse ≠ ['.'] := fun heq => hdot (by simpa using congrArg List.reverse heq)
    obtain ⟨c, hc⟩ := exists_ofPiece? (by simpa using hv) hdot'
    refine Or.inr (Or.inr ⟨c, ?_⟩)
    dsimp only
    rw [h, takeWhile_append_stop hplain hstop, dropWhile_append_stop hplain hstop]
    refine ⟨hc, ?_⟩
    rcases hu with rfl | ⟨u', rfl⟩
    · have hnil : components ⟨String.ofList [].reverse⟩ = [] := by decide
      rw [List.append_nil, components_of_piece hslash' hdot' hc, hnil, List.nil_append]
    · have hsplit : (v ++ '/' :: u').reverse = u'.reverse ++ '/' :: v.reverse := by simp
      rw [hsplit, components_append, ofText_of_piece hslash' hc, List.reverse_cons]

theorem fileName?_of_ofPiece? (h : ofPiece? p.cutLast.1.reverse = some c) : p.fileName? = c.name? := by
  have hrev : ∀ v : List Char, p.cutLast.1 = v ↔ p.cutLast.1.reverse = v.reverse := by
    intro v
    exact List.reverse_inj.symm
  unfold ofPiece? at h
  unfold fileName?
  simp only [hrev, List.reverse_nil, List.reverse_cons, List.nil_append, List.cons_append] at h ⊢
  split at h
  · cases h
  · next hnone =>
    have hskip : ¬ (p.cutLast.1.reverse = [] ∨ p.cutLast.1.reverse = ['.']) := hnone
    split at h
    · next hup =>
      cases h
      rw [if_pos (Or.inr (Or.inr hup))]
      rfl
    · next hup =>
      cases h
      rw [if_neg (by simp only [not_or] at hskip ⊢; exact ⟨hskip.1, hskip.2, hup⟩)]
      rfl

/-- The parent has all components but the last, which is the file name if it is a name. -/
theorem exists_of_parent? (h : p.parent? = some q) :
    ∃ c, p.components = q.components ++ [c] ∧ p.fileName? = c.name? := by
  unfold parent? at h
  dsimp only at h
  rcases cutLast_cases p with ⟨hlast, -⟩ | ⟨hlast, hcomponents⟩ | ⟨c, hc, hcomponents⟩
  · rw [if_pos hlast] at h
    cases h
  · rw [hlast] at h
    cases h
    refine ⟨.here, ?_, by simp [fileName?, hlast, name?]⟩
    rw [hcomponents]
    decide
  · have hne : p.cutLast.1 ≠ [] := by
      intro hnil
      rw [hnil] at hc
      cases hc
    rw [if_neg hne] at h
    cases h
    exact ⟨c, by rw [components_settle, hcomponents], fileName?_of_ofPiece? hc⟩

/-- Only the empty path and the root have no parent. -/
theorem components_of_parent?_eq_none (h : p.parent? = none) :
    p.components = [] ∨ p.components = [.root] := by
  unfold parent? at h
  dsimp only at h
  rcases cutLast_cases p with ⟨-, hcomponents⟩ | ⟨hlast, -⟩ | ⟨c, hc, -⟩
  · exact hcomponents
  · rw [hlast] at h
    cases h
  · split at h
    · next hnil =>
      rw [hnil] at hc
      cases hc
    · cases h

/-! ## Names that are joined -/

/-- Nothing at the end of the path makes no difference. -/
def IsSettled (p : Path) : Prop := settle p.text.toList.reverse = p.text.toList.reverse

theorem settle_name (hname : IsName name) (u : List Char) :
    settle (name.toList.reverse ++ u) = name.toList.reverse ++ u := by
  apply settle_append
  · simpa using hname.ne_empty
  · simpa using hname.slash_not_mem
  · intro h
    apply hname.ne_here
    rw [← String.toList_inj, ← List.reverse_inj, h]
    rfl

/-- A joined name is cut off again, and the path is what is left. -/
theorem exists_cutLast_join (hname : IsName name) (hp : p.IsSettled) :
    ∃ before, (p.join name).cutLast = (name.toList.reverse, before) ∧
      settle before = p.text.toList.reverse := by
  have hplain : ∀ c ∈ name.toList.reverse, decide (c ≠ '/') = true := fun c hc =>
    decide_eq_true fun heq => hname.slash_not_mem (List.mem_reverse.mp (heq ▸ hc))
  have hcut : ∀ u, (p.join name).text.toList.reverse = name.toList.reverse ++ u →
      (∀ c, u.head? = some c → decide (c ≠ '/') = false) →
      (p.join name).cutLast = (name.toList.reverse, u) := by
    intro u hu hstop
    unfold cutLast
    rw [hu, settle_name hname]
    dsimp only
    rw [takeWhile_append_stop hplain hstop, dropWhile_append_stop hplain hstop]
  by_cases hempty : p.text = ""
  · refine ⟨[], hcut [] ?_ nofun, ?_⟩
    · simp [join_eq_of_text_eq_empty hempty]
    · rw [hempty]
      rfl
  · obtain ⟨u, hjoin, hu⟩ := exists_toList_join hempty (head?_ne_slash hname)
    refine ⟨'/' :: u.reverse, hcut _ (by simp [hjoin]) (by rintro _ ⟨⟩; decide), ?_⟩
    unfold IsSettled at hp
    -- the slash before the name is a new one, or the one that the text ended in
    rcases hu with hu | hu
    · have hne : p.text.toList.reverse ≠ [] := by simpa using hempty
      obtain ⟨c, rest, hreverse⟩ := List.exists_cons_of_ne_nil hne
      rw [← hu, hreverse, settle, ← hreverse, hp]
    · rw [hu, List.reverse_append] at hp
      rw [hu, List.reverse_append]
      exact hp

/-- The parent of a path with a name joined is the path. -/
theorem parent?_join (hname : IsName name) (hp : p.IsSettled) : (p.join name).parent? = some p := by
  obtain ⟨before, hcut, hbefore⟩ := exists_cutLast_join hname hp
  have hne : name.toList.reverse ≠ [] := by simpa using hname.ne_empty
  unfold parent?
  rw [hcut]
  dsimp only
  rw [if_neg hne, hbefore, List.reverse_reverse, String.ofList_toList]

theorem fileName?_join (hname : IsName name) (hp : p.IsSettled) :
    (p.join name).fileName? = some name := by
  obtain ⟨before, hcut, -⟩ := exists_cutLast_join hname hp
  have hpiece := ofPiece?_of_isName hname
  rw [← List.reverse_reverse name.toList] at hpiece
  rw [fileName?_of_ofPiece? (c := .name name) (by rw [hcut]; exact hpiece)]
  rfl

theorem isSettled_join (hname : IsName name) (p : Path) : (p.join name).IsSettled := by
  unfold IsSettled
  by_cases hempty : p.text = ""
  · rw [join_eq_of_text_eq_empty hempty]
    have hsettle := settle_name hname []
    rwa [List.append_nil] at hsettle
  · obtain ⟨u, hjoin, -⟩ := exists_toList_join hempty (head?_ne_slash hname)
    have hsplit : (p.join name).text.toList.reverse = name.toList.reverse ++ '/' :: u.reverse := by
      simp [hjoin]
    rw [hsplit, settle_name hname]

end Path

/-! ## Paths of locations -/

namespace Location

variable {l : Location} {name : String}

theorem text_path_ne_empty (l : Location) : l.path.text ≠ "" := by
  intro h
  have hlist := congrArg String.toList h
  simp [path] at hlist

/-- Only the path of the root ends in a slash. -/
theorem getLast?_text_path (hl : ∀ name ∈ l, IsName name) (hne : l ≠ []) :
    l.path.text.toList.getLast? ≠ some '/' := by
  obtain ⟨front, last, rfl⟩ := (List.eq_nil_or_concat l).resolve_left hne
  have hlast := hl last (by simp)
  have htext : ∃ u, (path (front ++ [last])).text.toList = u ++ last.toList := by
    unfold path
    by_cases hfront : front = []
    · exact ⟨['/'], by simp [hfront]⟩
    · refine ⟨('/' :: (String.intercalate "/" front).toList) ++ ['/'], ?_⟩
      rw [String.intercalate_append_of_ne_nil hfront (by simp)]
      simp
  obtain ⟨u, hu⟩ := htext
  obtain ⟨c, hc⟩ := Option.isSome_iff_exists.mp
    (List.getLast?_isSome.mpr (show last.toList ≠ [] by simpa using hlast.ne_empty))
  rw [List.concat_eq_append, hu, List.getLast?_append, hc, Option.some_or]
  rintro ⟨⟩
  exact hlast.slash_not_mem (List.mem_of_mem_getLast? hc)

/-- The path of a place is that of the directory above with its name joined. -/
theorem path_concat (hl : ∀ name ∈ l, IsName name) (hname : IsName name) :
    path (l ++ [name]) = l.path.join name := by
  unfold Path.join
  rw [if_neg (Path.head?_ne_slash hname)]
  by_cases hne : l = []
  · subst hne
    rw [if_pos (Or.inr (by decide))]
    simp [path]
  · rw [if_neg (by simp [text_path_ne_empty, getLast?_text_path hl hne])]
    unfold path
    rw [String.intercalate_append_of_ne_nil hne (by simp), String.intercalate_singleton]
    simp [String.append_assoc]

theorem isSettled_path (hl : ∀ name ∈ l, IsName name) : l.path.IsSettled := by
  rcases List.eq_nil_or_concat l with rfl | ⟨front, last, rfl⟩
  · unfold Path.IsSettled
    decide
  · rw [List.concat_eq_append] at hl ⊢
    rw [path_concat (fun name hname => hl name (by simp [hname])) (hl last (by simp))]
    exact Path.isSettled_join (hl last (by simp)) _

/-- The parent of the path of a place is the path of the directory above it. -/
theorem parent?_path (hl : ∀ other ∈ l ++ [name], IsName other) :
    (path (l ++ [name])).parent? = some l.path := by
  have habove : ∀ other ∈ l, IsName other := fun other hother => hl other (by simp [hother])
  rw [path_concat habove (hl name (by simp)), Path.parent?_join (hl name (by simp)) (isSettled_path habove)]

/-- The last name of a location is the file name of its path. -/
theorem fileName?_path (hl : ∀ other ∈ l ++ [name], IsName other) :
    (path (l ++ [name])).fileName? = some name := by
  have habove : ∀ other ∈ l, IsName other := fun other hother => hl other (by simp [hother])
  rw [path_concat habove (hl name (by simp)), Path.fileName?_join (hl name (by simp)) (isSettled_path habove)]

end Location

end BuildJdk
