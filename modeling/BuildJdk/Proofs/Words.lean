import BuildJdk.Probe.Vendor
import BuildJdk.Proofs.Trimming

/-!
# Words in texts

A search without regard to case lowers the text first. `Mentions` says what is looked for without that: a
run of the text whose letters are those of the word, whatever their case. The two agree on every word
without the letters that characters outside ASCII are lowered to.

Blanks around a text have no part in a word that neither begins nor ends with one.
-/

namespace BuildJdk.Text

/-! ## Runs -/

/-- A needle is found just where it is a run of the characters. -/
theorem hasRun_iff {needle s : List Char} : hasRun needle s = true ↔ needle <:+: s := by
  induction s with
  | nil => simp [hasRun]
  | cons c s ih => simp [hasRun, ih, List.infix_cons_iff, List.isPrefixOf_iff_prefix]

theorem contains_iff {s word : String} : contains s word = true ↔ word.toList <:+: s.toList :=
  hasRun_iff

section

variable {p : Char → Bool} {a : Char} {w u v : List Char}

/-- A run does not begin within characters of a class that its first one is not of. -/
theorem cons_infix_append_iff (ha : p a = false) (hu : u.all p = true) :
    a :: w <:+: u ++ v ↔ a :: w <:+: v := by
  induction u with
  | nil => rfl
  | cons b u ih =>
    have hu' : p b = true ∧ u.all p = true := by simpa using hu
    have hne : a ≠ b := by
      rintro rfl
      simp [ha] at hu'
    rw [List.cons_append, List.infix_cons_iff, List.cons_prefix_cons]
    simp [hne, ih hu'.2]

/-- A run does not end within characters of a class that its last one is not of. -/
theorem concat_infix_append_iff (ha : p a = false) (hv : v.all p = true) :
    w ++ [a] <:+: u ++ v ↔ w ++ [a] <:+: u := by
  have hreverse : a :: w.reverse <:+: v.reverse ++ u.reverse ↔ a :: w.reverse <:+: u.reverse :=
    cons_infix_append_iff ha (by simpa using hv)
  have hboth : ∀ t : List Char, w ++ [a] <:+: t ↔ a :: w.reverse <:+: t.reverse := by
    intro t
    rw [← List.reverse_infix]
    simp
  rw [hboth, hboth, List.reverse_append, hreverse]

end

/-! ## Letter case -/

/-- A run of the text has the letters of the lower case word. -/
def Mentions (s word : String) : Prop :=
  ∃ run, run <:+: s.toList ∧ run.map Char.toLower = word.toList

/-- The characters that are lowered over the border of ASCII, and what they are lowered to. -/
def isMixed (c : Char) : Bool := ['\u212A', '\u0130', '\u0307', 'k', 'i'].contains c

theorem toNat_toLower {c : Char} (hc : 'A' ≤ c ∧ c ≤ 'Z') : c.toLower.toNat = c.toNat + 32 := by
  have hval : c.val ≥ 'A'.val ∧ c.val ≤ 'Z'.val := hc
  have hn : c.toNat ≤ 90 := hc.2
  unfold Char.toLower
  rw [dif_pos hval]
  show (c.val + ('a'.val - 'A'.val)).toNat = c.toNat + 32
  rw [UInt32.toNat_add]
  show (c.toNat + 32) % 4294967296 = c.toNat + 32
  omega

/-- Only the capitals of ASCII are lowered. -/
theorem toLower_of_not_capital {c : Char} (hc : ¬ ('A' ≤ c ∧ c ≤ 'Z')) : c.toLower = c := by
  have hval : ¬ (c.val ≥ 'A'.val ∧ c.val ≤ 'Z'.val) := hc
  unfold Char.toLower
  rw [dif_neg hval]

theorem lowerChar_eq {c : Char} (hk : c ≠ '\u212A') (hi : c ≠ '\u0130') :
    lowerChar c = [c.toLower] := by
  unfold lowerChar
  by_cases hc : 'A' ≤ c ∧ c ≤ 'Z'
  · have hlower : Char.ofNat (c.toNat + 32) = c.toLower := by
      rw [← toNat_toLower hc, Char.ofNat_toNat]
    rw [if_pos hc, hlower]
  · rw [if_neg hc, if_neg hk, if_neg hi, toLower_of_not_capital hc]

/-- A character is lowered like one of ASCII, or else to mixed characters only. -/
theorem lowerChar_cases (c : Char) :
    lowerChar c = [c.toLower] ∨ (lowerChar c).all isMixed = true ∧ isMixed c.toLower = true := by
  by_cases hk : c = '\u212A'
  · subst hk
    exact Or.inr (by decide)
  · by_cases hi : c = '\u0130'
    · subst hi
      exact Or.inr (by decide)
    · exact Or.inl (lowerChar_eq hk hi)

/-- Both cases of an ASCII letter have the same lower case form. -/
theorem lowerChar_toLower (c : Char) : lowerChar c.toLower = lowerChar c := by
  by_cases hc : 'A' ≤ c ∧ c ≤ 'Z'
  · have hn : 65 ≤ c.toNat ∧ c.toNat ≤ 90 := hc
    have hlower := toNat_toLower hc
    have hne : ∀ d e : Char, d.toNat ≤ 122 → 122 < e.toNat → d ≠ e := by
      rintro d _ hd he rfl
      omega
    have hsmall : ¬ ('A' ≤ c.toLower ∧ c.toLower ≤ 'Z') := by
      rintro ⟨-, hhigh⟩
      have hhigh' : c.toLower.toNat ≤ 90 := hhigh
      omega
    have hsame : lowerChar c.toLower = [c.toLower.toLower] :=
      lowerChar_eq (hne _ _ (by omega) (by decide)) (hne _ _ (by omega) (by decide))
    rw [hsame, toLower_of_not_capital hsmall,
      lowerChar_eq (hne _ _ (by omega) (by decide)) (hne _ _ (by omega) (by decide))]
  · rw [toLower_of_not_capital hc]

theorem lower_cons (c : Char) (s : List Char) : lower (c :: s) = lowerChar c ++ lower s := by
  simp [lower]

theorem lower_append (s t : List Char) : lower (s ++ t) = lower s ++ lower t := by
  simp [lower]

theorem lower_map_toLower (s : List Char) : lower (s.map Char.toLower) = lower s := by
  unfold lower
  rw [List.flatMap_map]
  simp only [lowerChar_toLower]

theorem not_cons_prefix_append {a : Char} {w u v : List Char} (ha : isMixed a = false)
    (hne : u ≠ []) (hu : u.all isMixed = true) : ¬ a :: w <+: u ++ v := by
  cases u with
  | nil => exact absurd rfl hne
  | cons b u =>
    rintro h
    rw [List.cons_append, List.cons_prefix_cons] at h
    simp [← h.1, ha] at hu

theorem lowerChar_ne_nil (c : Char) : lowerChar c ≠ [] := by
  unfold lowerChar
  repeat' split
  all_goals simp

/-- A word of no mixed characters starts the lowered text just if it starts the text lowered as ASCII. -/
theorem prefix_lower_iff {w s : List Char} (hw : ∀ c ∈ w, isMixed c = false) :
    w <+: lower s ↔ w <+: s.map Char.toLower := by
  induction s generalizing w with
  | nil => rfl
  | cons c s ih =>
    cases w with
    | nil => simp
    | cons a w =>
      have ha := hw a List.mem_cons_self
      have ih' := ih fun b hb => hw b (List.mem_cons_of_mem _ hb)
      rw [lower_cons, List.map_cons]
      rcases lowerChar_cases c with hc | ⟨hc, hc'⟩
      · rw [hc, List.singleton_append, List.cons_prefix_cons, List.cons_prefix_cons, ih']
      · have h₁ := not_cons_prefix_append (w := w) (v := lower s) ha (lowerChar_ne_nil c) hc
        have h₂ := not_cons_prefix_append (w := w) (u := [c.toLower]) (v := s.map Char.toLower) ha
          (by simp) (by simpa using hc')
        simp only [h₁, false_iff]
        exact h₂

/-- A word of no mixed characters is in the lowered text just if it is in the text lowered as ASCII. -/
theorem infix_lower_iff {w s : List Char} (hw : ∀ c ∈ w, isMixed c = false) :
    w <:+: lower s ↔ w <:+: s.map Char.toLower := by
  induction s with
  | nil => rfl
  | cons c s ih =>
    cases w with
    | nil => simp
    | cons a w =>
      have ha := hw a List.mem_cons_self
      rcases lowerChar_cases c with hc | ⟨hc, hc'⟩
      · have hpre := prefix_lower_iff (s := c :: s) hw
        rw [lower_cons, hc, List.singleton_append, List.map_cons] at hpre ⊢
        rw [List.infix_cons_iff, List.infix_cons_iff, hpre, ih]
      · -- nothing of the word lies in the lowered form of this character
        rw [lower_cons, cons_infix_append_iff ha hc, ih, List.map_cons]
        have hone : [c.toLower].all isMixed = true := by simpa using hc'
        exact (cons_infix_append_iff ha hone).symm

/-- A search for a word without mixed letters finds just the texts that mention it. -/
theorem containsAnyCase_iff {s word : String} (hw : word.toList.any isMixed = false) :
    containsAnyCase s word = true ↔ Mentions s word := by
  have hplain : ∀ c ∈ word.toList, isMixed c = false := by
    intro c hc
    simpa using List.any_eq_false.mp hw c hc
  unfold containsAnyCase Mentions
  rw [hasRun_iff, infix_lower_iff hplain, List.infix_map_iff]
  simp only [eq_comm]

/-! ## Blanks around a text -/

theorem lowerChar_of_isBlank {c : Char} (hc : isBlank c = true) : lowerChar c = [c] := by
  have hcode : ∀ d : Char, isBlank d = false → c ≠ d := by
    rintro d hd rfl
    simp [hd] at hc
  have hcase : ¬ ('A' ≤ c ∧ c ≤ 'Z') := by
    rintro ⟨hlow, hhigh⟩
    have hlow' : 65 ≤ c.toNat := hlow
    have hhigh' : c.toNat ≤ 90 := hhigh
    simp only [isBlank, inRanges, blankRanges, List.any_cons, List.any_nil, Bool.or_false,
      Bool.or_eq_true, Bool.and_eq_true, decide_eq_true_eq] at hc
    omega
  unfold lowerChar
  rw [if_neg hcase, if_neg (hcode _ (by decide)), if_neg (hcode _ (by decide))]

theorem lower_of_blank {u : List Char} (hu : u.all isBlank = true) : lower u = u := by
  induction u with
  | nil => rfl
  | cons c u ih =>
    have hu' : isBlank c = true ∧ u.all isBlank = true := by simpa using hu
    rw [lower_cons, lowerChar_of_isBlank hu'.1, ih hu'.2]
    rfl

/-- The characters begin and end with one that is not blank. -/
def isSolid (w : List Char) : Bool :=
  w.head?.any (!isBlank ·) && w.getLast?.any (!isBlank ·)

/-- A word without blanks at its ends is not in the blanks around a text. -/
theorem infix_append_blank_iff {w u t v : List Char} (hw : isSolid w = true)
    (hu : u.all isBlank = true) (hv : v.all isBlank = true) :
    w <:+: u ++ t ++ v ↔ w <:+: t := by
  have hends : w.head?.any (!isBlank ·) = true ∧ w.getLast?.any (!isBlank ·) = true := by
    simpa [isSolid] using hw
  have hback : w <:+: u ++ t ++ v ↔ w <:+: u ++ t := by
    rcases List.eq_nil_or_concat w with rfl | ⟨w', b, rfl⟩
    · simp at hends
    · have hb : isBlank b = false := by simpa using hends.2
      simpa using concat_infix_append_iff (w := w') (u := u ++ t) hb hv
  rw [hback]
  cases w with
  | nil => simp at hends
  | cons a w =>
    have ha : isBlank a = false := by simpa using hends.1
    exact cons_infix_append_iff ha hu

/-- Blanks around a text have no part in a solid word. -/
theorem containsAnyCase_trim {word : String} (hw : isSolid word.toList = true) (s : String) :
    containsAnyCase (trim s) word = containsAnyCase s word := by
  obtain ⟨u, v, hs, hu, hv⟩ := exists_append_trimBlanks s.toList
  have hlower : lower s.toList = u ++ lower (trimBlanks s.toList) ++ v :=
    calc lower s.toList = lower (u ++ trimBlanks s.toList ++ v) := congrArg lower hs
      _ = u ++ lower (trimBlanks s.toList) ++ v := by
        rw [lower_append, lower_append, lower_of_blank hu, lower_of_blank hv]
  rw [Bool.eq_iff_iff, containsAnyCase, containsAnyCase, hasRun_iff, hasRun_iff, hlower,
    infix_append_blank_iff hw hu hv, trim, String.toList_ofList]

end BuildJdk.Text
