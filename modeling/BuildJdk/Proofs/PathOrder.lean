import BuildJdk.Scan

/-!
# The order of paths

Paths are compared by their components, which makes a linear order of the lists of components. A list of paths
in strict order therefore holds each path once, in some spelling, and is determined by the paths in it, up to
their spellings. Insertion keeps such a list in order, adds the path if it is not there yet, and changes nothing
else.
-/

namespace BuildJdk

/-! ## Comparing -/

namespace Component

theorem compare_eq_compareLex :
    compare = compareLex (compareOn rank) (compareOn fun c => c.text.toList) := rfl

instance : Std.TransCmp compare := by
  rw [compare_eq_compareLex]
  infer_instance

theorem eq_of_rank_text {a b : Component} (hrank : a.rank = b.rank)
    (htext : a.text.toList = b.text.toList) : a = b := by
  cases a <;> cases b <;> simp_all [rank, text, String.toList_inj]

instance : Std.LawfulEqCmp compare where
  eq_of_compare {a b} h := by
    rw [compare, Ordering.then_eq_eq] at h
    exact eq_of_rank_text (Std.LawfulEqCmp.eq_of_compare h.1) (Std.LawfulEqCmp.eq_of_compare h.2)

end Component

namespace Path

variable {p q r : Path}

/-- Paths compare equal just if they have the same components. -/
theorem compare_eq_eq_iff : p.compare q = .eq ↔ p.components = q.components := by
  constructor
  · intro h
    exact Std.LawfulEqCmp.eq_of_compare h
  · intro h
    rw [compare, h]
    exact Std.ReflCmp.compare_self

/-- The order of paths is transitive. -/
theorem compare_eq_lt_trans (hpq : p.compare q = .lt) (hqr : q.compare r = .lt) :
    p.compare r = .lt := by
  unfold compare at hpq hqr ⊢
  exact Std.TransCmp.lt_trans hpq hqr

theorem compare_eq_lt_of_gt (h : p.compare q = .gt) : q.compare p = .lt := by
  unfold compare at h ⊢
  exact Std.OrientedCmp.lt_of_gt h

end Path

/-! ## Lists in order -/

/-- The paths rise from each to the next, so none is there twice. -/
def Rising (found : List Path) : Prop := found.Pairwise fun p q => p.compare q = .lt

variable {found found' : List Path}

theorem Rising.pairwise_components (h : Rising found) : (found.map Path.components).Pairwise
    fun a b => List.compareLex Component.compare a b = .lt :=
  List.pairwise_map.mpr h

/-- No two paths in order have the same components. -/
theorem Rising.nodup_components (h : Rising found) : (found.map Path.components).Nodup := by
  refine h.pairwise_components.imp ?_
  rintro a _ hlt rfl
  rw [show List.compareLex Component.compare a a = .eq from Std.ReflCmp.compare_self] at hlt
  cases hlt

/-- Rising lists of the same paths are the same, up to spellings. -/
theorem Rising.components_eq (h : Rising found) (h' : Rising found')
    (hsame : ∀ c, c ∈ found.map Path.components ↔ c ∈ found'.map Path.components) :
    found.map Path.components = found'.map Path.components := by
  have hperm := (List.perm_ext_iff_of_nodup h.nodup_components h'.nodup_components).mpr hsame
  refine hperm.eq_of_pairwise ?_ h.pairwise_components h'.pairwise_components
  intro a b _ _ hab hba
  exact absurd hba (Std.OrientedCmp.not_lt_of_lt hab)

namespace Scan

variable {p q : Path} {found : List Path}

/-- Inserting a path adds no other path. -/
theorem mem_of_mem_insert (h : q ∈ insert p found) : q = p ∨ q ∈ found := by
  induction found with
  | nil => exact Or.inl (List.mem_singleton.mp h)
  | cons r rest ih =>
    unfold insert at h
    split at h
    · exact List.mem_cons.mp h
    · exact Or.inr h
    · rcases List.mem_cons.mp h with rfl | h
      · exact Or.inr List.mem_cons_self
      · exact (ih h).imp_right (List.mem_cons_of_mem _)

theorem mem_insert_of_mem (h : q ∈ found) : q ∈ insert p found := by
  induction found with
  | nil => cases h
  | cons r rest ih =>
    unfold insert
    split
    · exact List.mem_cons_of_mem _ h
    · exact h
    · rcases List.mem_cons.mp h with rfl | h
      · exact List.mem_cons_self
      · exact List.mem_cons_of_mem _ (ih h)

/-- After the insertion the path is there, in some spelling. -/
theorem exists_mem_insert (p : Path) (found : List Path) :
    ∃ q ∈ insert p found, q.components = p.components := by
  induction found with
  | nil => exact ⟨p, List.mem_singleton_self p, rfl⟩
  | cons r rest ih =>
    unfold insert
    split
    · exact ⟨p, List.mem_cons_self, rfl⟩
    · next heq => exact ⟨r, List.mem_cons_self, (Path.compare_eq_eq_iff.mp heq).symm⟩
    · obtain ⟨q, hq, hsame⟩ := ih
      exact ⟨q, List.mem_cons_of_mem _ hq, hsame⟩

/-- Inserting a path keeps the order. -/
theorem rising_insert (h : Rising found) : Rising (insert p found) := by
  induction found with
  | nil => exact List.pairwise_singleton _ _
  | cons r rest ih =>
    obtain ⟨hfirst, hrest⟩ := List.pairwise_cons.mp h
    unfold insert
    split
    · next hlt =>
      refine List.pairwise_cons.mpr ⟨fun q hq => ?_, h⟩
      rcases List.mem_cons.mp hq with rfl | hq
      · exact hlt
      · exact Path.compare_eq_lt_trans hlt (hfirst q hq)
    · exact h
    · next hgt =>
      refine List.pairwise_cons.mpr ⟨fun q hq => ?_, ih hrest⟩
      rcases mem_of_mem_insert hq with rfl | hq
      · exact Path.compare_eq_lt_of_gt hgt
      · exact hfirst q hq

/-! ## Inserting one after the other -/

/-- Inserting one path after the other keeps the order. -/
theorem rising_foldl_insert (paths : List Path) (h : Rising found) :
    Rising (paths.foldl (fun found p => insert p found) found) := by
  induction paths generalizing found with
  | nil => exact h
  | cons p paths ih => exact ih (rising_insert h)

theorem mem_of_mem_foldl_insert {paths : List Path}
    (h : q ∈ paths.foldl (fun found p => insert p found) found) : q ∈ found ∨ q ∈ paths := by
  induction paths generalizing found with
  | nil => exact Or.inl h
  | cons p paths ih =>
    rcases ih h with h | h
    · rcases mem_of_mem_insert h with rfl | h
      · exact Or.inr List.mem_cons_self
      · exact Or.inl h
    · exact Or.inr (List.mem_cons_of_mem _ h)

theorem mem_foldl_insert_of_mem (paths : List Path) (h : q ∈ found) :
    q ∈ paths.foldl (fun found p => insert p found) found := by
  induction paths generalizing found with
  | nil => exact h
  | cons p paths ih => exact ih (mem_insert_of_mem h)

/-- Each path that was inserted is there, in some spelling. -/
theorem exists_mem_foldl_insert {paths : List Path} (found : List Path) (h : p ∈ paths) :
    ∃ q ∈ paths.foldl (fun found p => insert p found) found, q.components = p.components := by
  induction paths generalizing found with
  | nil => cases h
  | cons r paths ih =>
    rcases List.mem_cons.mp h with rfl | h
    · obtain ⟨q, hq, hsame⟩ := exists_mem_insert p found
      exact ⟨q, mem_foldl_insert_of_mem paths hq, hsame⟩
    · exact ih (insert r found) h

end Scan

end BuildJdk
