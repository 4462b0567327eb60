import Mathlib.Data.List.TakeWhile
import BuildJdk.Text.Blank

/-!
# Texts without their ends

To trim a text is to take the characters of a class away from both its ends, or from its end alone. `Inside`
and `Front` say what is left without saying how it is found, and there is just one such text.
-/

namespace BuildJdk.Text

variable {p : Char → Bool} {s t u : List Char}

/-- `t` is left of `s` without the characters of a class at both ends. -/
structure Inside (p : Char → Bool) (s t : List Char) : Prop where
  exists_ends : ∃ front back, s = front ++ t ++ back ∧
    (∀ c ∈ front, p c = true) ∧ ∀ c ∈ back, p c = true
  head_not : ∀ c, t.head? = some c → p c = false
  last_not : ∀ c, t.getLast? = some c → p c = false

/-- `t` is left of `s` without the characters of a class at its end. -/
structure Front (p : Char → Bool) (s t : List Char) : Prop where
  exists_back : ∃ back, s = t ++ back ∧ ∀ c ∈ back, p c = true
  last_not : ∀ c, t.getLast? = some c → p c = false

/-! ## One end -/

/-- What is taken from the front is of the kind. -/
theorem of_mem_takeWhile {c : Char} (h : c ∈ s.takeWhile p) : p c = true :=
  List.all_eq_true.mp List.all_takeWhile c h

/-- What is left starts with a character of another kind, or is empty. -/
theorem of_head?_dropWhile {c : Char} (h : (s.dropWhile p).head? = some c) : p c = false := by
  have hnot := List.head?_dropWhile_not p s
  rwa [h] at hnot

theorem dropWhile_eq_self (h : ∀ c, t.head? = some c → p c = false) : t.dropWhile p = t := by
  cases t with
  | nil => rfl
  | cons c t => rw [List.dropWhile_cons_of_neg (by simp [h c rfl])]

/-- The leading characters of a class end where the first other one stands. -/
theorem takeWhile_append_stop (hfront : ∀ c ∈ s, p c = true)
    (hstop : ∀ c, t.head? = some c → p c = false) : (s ++ t).takeWhile p = s := by
  rw [List.takeWhile_append_of_pos hfront]
  cases t with
  | nil => simp
  | cons c t => rw [List.takeWhile_cons_of_neg (by simp [hstop c rfl]), List.append_nil]

/-- A front of one kind is dropped up to the first character of another. -/
theorem dropWhile_append_stop (hfront : ∀ c ∈ s, p c = true)
    (hstop : ∀ c, t.head? = some c → p c = false) : (s ++ t).dropWhile p = t := by
  rw [List.dropWhile_append_of_pos hfront, dropWhile_eq_self hstop]

section

variable {c : Char} (hs : c ∉ s) (t : List Char)

include hs

theorem takeWhile_ne_append : (s ++ c :: t).takeWhile (fun d => decide (d ≠ c)) = s := by
  apply takeWhile_append_stop
  · rintro d hd
    exact decide_eq_true fun h => hs (h ▸ hd)
  · rintro _ ⟨⟩
    exact decide_eq_false (not_not_intro rfl)

theorem dropWhile_ne_append : (s ++ c :: t).dropWhile (fun d => decide (d ≠ c)) = c :: t := by
  apply dropWhile_append_stop
  · rintro d hd
    exact decide_eq_true fun h => hs (h ▸ hd)
  · rintro _ ⟨⟩
    exact decide_eq_false (not_not_intro rfl)

end

/-- Only characters of the kind are dropped from the end. -/
theorem exists_append_dropFinal (p : Char → Bool) (u : List Char) :
    ∃ back, u = dropFinal p u ++ back ∧ ∀ c ∈ back, p c = true := by
  refine ⟨(u.reverse.takeWhile p).reverse, ?_, fun c hc => of_mem_takeWhile (List.mem_reverse.mp hc)⟩
  rw [dropFinal, ← List.reverse_append, List.takeWhile_append_dropWhile, List.reverse_reverse]

/-- An end of one kind is dropped back to the last character of another. -/
theorem dropFinal_append (hback : ∀ c ∈ u, p c = true)
    (hlast : ∀ c, t.getLast? = some c → p c = false) : dropFinal p (t ++ u) = t := by
  have hreverse : ∀ c ∈ u.reverse, p c = true := fun c hc => hback c (List.mem_reverse.mp hc)
  have hstop : ∀ c, t.reverse.head? = some c → p c = false := by
    intro c hc
    exact hlast c (by rwa [List.head?_reverse] at hc)
  rw [dropFinal, List.reverse_append, List.dropWhile_append_of_pos hreverse,
    dropWhile_eq_self hstop, List.reverse_reverse]

theorem dropFinal_concat {c : Char} (hc : p c = true) (s : List Char) :
    dropFinal p (s ++ [c]) = dropFinal p s := by
  simp [dropFinal, hc]

theorem front_dropFinal (p : Char → Bool) (s : List Char) : Front p s (dropFinal p s) := by
  refine ⟨exists_append_dropFinal p s, fun c hc => ?_⟩
  rw [dropFinal, List.getLast?_reverse] at hc
  exact of_head?_dropWhile hc

/-- Dropping the end is the only way to a front. -/
theorem front_iff : Front p s t ↔ t = dropFinal p s := by
  constructor
  · rintro ⟨⟨back, rfl, hback⟩, hlast⟩
    exact (dropFinal_append hback hlast).symm
  · rintro rfl
    exact front_dropFinal p s

/-- What a text goes on with is trimmed alone, if the text itself ends outside the class. -/
theorem Front.append {u v : List Char} (h : Front p u v)
    (hlast : ∀ c, s.getLast? = some c → p c = false) : Front p (s ++ u) (s ++ v) := by
  obtain ⟨⟨back, rfl, hback⟩, hlast'⟩ := h
  refine ⟨⟨back, (List.append_assoc s v back).symm, hback⟩, fun c hc => ?_⟩
  cases v with
  | nil => exact hlast c (by simpa using hc)
  | cons d v => exact hlast' c (by simpa [List.getLast?_append] using hc)

/-! ## Both ends -/

theorem inside_dropEnds (p : Char → Bool) (s : List Char) : Inside p s (dropEnds p s) := by
  obtain ⟨back, hsplit, hback⟩ := exists_append_dropFinal p (s.dropWhile p)
  refine ⟨⟨s.takeWhile p, back, ?_, fun c => of_mem_takeWhile, hback⟩, fun c hc => ?_, fun c hc => ?_⟩
  · rw [dropEnds, dropStart, List.append_assoc, ← hsplit, List.takeWhile_append_dropWhile]
  · -- what is left begins where the text without its leading characters begins
    apply of_head?_dropWhile (s := s)
    rw [hsplit, List.head?_append]
    rw [dropEnds, dropStart] at hc
    rw [hc, Option.some_or]
  · exact (front_dropFinal p (dropStart p s)).last_not c hc

theorem inside_self (hhead : ∀ c, t.head? = some c → p c = false)
    (hlast : ∀ c, t.getLast? = some c → p c = false) : Inside p t t :=
  ⟨⟨[], [], by simp⟩, hhead, hlast⟩

/-- A front is the inside if it starts with a character of another kind. -/
theorem Front.inside (h : Front p s t) (hhead : ∀ c, t.head? = some c → p c = false) :
    Inside p s t := by
  obtain ⟨⟨back, rfl, hback⟩, hlast⟩ := h
  exact ⟨⟨[], back, rfl, nofun, hback⟩, hhead, hlast⟩

/-- More of the class around a text changes nothing. -/
theorem Inside.widen {u v : List Char} (h : Inside p s t) (hu : ∀ c ∈ u, p c = true)
    (hv : ∀ c ∈ v, p c = true) : Inside p (u ++ s ++ v) t := by
  obtain ⟨⟨front, back, rfl, hfront, hback⟩, hhead, hlast⟩ := h
  refine ⟨⟨u ++ front, back ++ v, by simp, fun c hc => ?_, fun c hc => ?_⟩, hhead, hlast⟩
  · exact (List.mem_append.mp hc).elim (hu c) (hfront c)
  · exact (List.mem_append.mp hc).elim (hback c) (hv c)

/-- Dropping both ends is the only way inside. -/
theorem inside_iff : Inside p s t ↔ t = dropEnds p s := by
  constructor
  · intro h
    obtain ⟨front, back, rfl, hfront, hback⟩ := h.exists_ends
    rw [dropEnds, dropStart, List.append_assoc, List.dropWhile_append_of_pos hfront]
    cases t with
    | nil =>
      rw [List.nil_append, List.dropWhile_eq_nil_iff.mpr hback]
      rfl
    | cons c t =>
      have hstop : (c :: t ++ back).dropWhile p = c :: t ++ back :=
        dropWhile_eq_self fun d hd => h.head_not d hd
      rw [hstop, dropFinal_append hback h.last_not]
  · rintro rfl
    exact inside_dropEnds p s

/-- A text that begins outside the class loses characters at its end only. -/
theorem Inside.front (h : Inside p s t) (hhead : ∀ c, s.head? = some c → p c = false) :
    Front p s t := by
  rw [front_iff, inside_iff.mp h, dropEnds, dropStart, dropWhile_eq_self hhead]

theorem Front.head?_eq (h : Front p s t) {c : Char} (hc : t.head? = some c) : s.head? = some c := by
  obtain ⟨back, rfl, -⟩ := h.exists_back
  rw [List.head?_append, hc, Option.some_or]

/-! ## Classes without a common character -/

/-- No range of the one list meets one of the other. -/
def areApart (ranges ranges' : List (Nat × Nat)) : Bool :=
  ranges.all fun r => ranges'.all fun r' => r.2 < r'.1 || r'.2 < r.1

/-- No character is in two classes whose ranges are apart. -/
theorem inRanges_eq_false_of_apart {ranges ranges' : List (Nat × Nat)}
    (h : areApart ranges ranges' = true) {c : Char} (hc : inRanges ranges c = true) :
    inRanges ranges' c = false := by
  unfold areApart at h
  unfold inRanges at hc ⊢
  simp only [List.all_eq_true, Bool.or_eq_true, decide_eq_true_eq] at h
  simp only [List.any_eq_true, Bool.and_eq_true, decide_eq_true_eq] at hc
  obtain ⟨r, hr, hlow, hhigh⟩ := hc
  rw [List.any_eq_false]
  intro r' hr'
  have hdisjoint := h r hr r' hr'
  simp only [Bool.and_eq_true, decide_eq_true_eq]
  omega

/-! ## Blanks -/

/-- No visible character of ASCII is blank. -/
theorem not_isBlank_of_between {a b c : Char} (ha : '!' ≤ a) (hb : b ≤ '~') (hlow : a ≤ c) (hhigh : c ≤ b) :
    isBlank c = false := by
  have hlow' : 0x21 ≤ c.toNat := Char.le_trans ha hlow
  have hhigh' : c.toNat ≤ 0x7E := Char.le_trans hhigh hb
  have hvisible : inRanges [(0x21, 0x7E)] c = true := by simp [inRanges, hlow', hhigh']
  exact inRanges_eq_false_of_apart (by decide) hvisible

theorem exists_append_trimBlanks (s : List Char) :
    ∃ u v, s = u ++ trimBlanks s ++ v ∧ u.all isBlank = true ∧ v.all isBlank = true := by
  obtain ⟨u, v, hsplit, hu, hv⟩ := (inside_dropEnds isBlank s).exists_ends
  exact ⟨u, v, hsplit, List.all_eq_true.mpr hu, List.all_eq_true.mpr hv⟩

/-- A text is blank just if nothing is left of it without the blanks around it. -/
theorem isAllBlank_iff {s : String} : isAllBlank s = true ↔ trim s = "" := by
  have htrim : trim s = "" ↔ trimBlanks s.toList = [] := by
    constructor
    · intro h
      exact String.ofList_injective h
    · intro h
      rw [trim, h]
  rw [htrim, isAllBlank]
  constructor
  · intro h
    rw [trimBlanks, dropEnds, dropStart,
      List.dropWhile_eq_nil_iff.mpr fun c hc => List.all_eq_true.mp h c hc]
    rfl
  · intro h
    obtain ⟨u, v, hs, hu, hv⟩ := exists_append_trimBlanks s.toList
    rw [h, List.append_nil] at hs
    rw [hs, List.all_append, hu, hv]
    rfl

/-- A text without blanks is trimmed already. -/
theorem trim_of_not_isBlank {s : String} (h : ∀ c ∈ s.toList, isBlank c = false) : trim s = s := by
  have hkept : Inside isBlank s.toList s.toList :=
    inside_self (fun c hc => h c (List.mem_of_mem_head? hc))
      fun c hc => h c (List.mem_of_mem_getLast? hc)
  rw [trim, trimBlanks, ← inside_iff.mp hkept, String.ofList_toList]

end BuildJdk.Text
