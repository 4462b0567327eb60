import BuildJdk.Proofs.Numbering

/-!
# Versions read from their own texts

A version keeps the text that is left of the given one without the blanks, and then the quotes, around it. Both
are taken away once, so what is kept may end in blanks again, with quotes before them: of `"17" "` the text
`17" ` is kept. When that is read, the blanks and quotes at its end are taken away in turn.

Main statement: the text of a version is read as a version of the same numbers. It begins with a digit, so nothing
is taken from its front; and what is taken from its end has no digit and no dot, so the runs of digits stay.
-/

namespace BuildJdk

namespace Version

open Text

/-! ## What follows the runs -/

/-- Characters that neither prolong a run of digits nor begin another one. -/
def IsTail (back : List Char) : Prop := ∀ c ∈ back, isDigit c = false ∧ c ≠ '.'

section

variable {back : List Char} (hback : IsTail back) (s : List Char)

include hback

/-- No digit follows what is kept of a version text. -/
theorem IsTail.head?_not : ∀ c, back.head? = some c → isDigit c = false :=
  fun c hc => (hback c (List.mem_of_mem_head? hc)).1

/-- What follows the kept text has no part in its first run of digits. -/
theorem leadingRun_append_tail : leadingRun (s ++ back) = leadingRun s := by
  have hsplit : s.takeWhile isDigit ++ (s.dropWhile isDigit ++ back) = s ++ back := by
    rw [← List.append_assoc, List.takeWhile_append_dropWhile]
  unfold leadingRun
  rw [← hsplit]
  refine takeWhile_append_stop (fun c => of_mem_takeWhile) fun c hc => ?_
  cases hrest : s.dropWhile isDigit with
  | nil => exact hback.head?_not c (by simpa [hrest] using hc)
  | cons d rest => exact of_head?_dropWhile (s := s) (by simpa [hrest] using hc)

theorem afterRun_append_tail : afterRun (s ++ back) = afterRun s ++ back := by
  have hsplit : leadingRun s ++ (afterRun s ++ back) = leadingRun (s ++ back) ++ afterRun (s ++ back) := by
    unfold leadingRun afterRun
    rw [← List.append_assoc, List.takeWhile_append_dropWhile, List.takeWhile_append_dropWhile]
  rw [leadingRun_append_tail hback] at hsplit
  exact (List.append_cancel_left hsplit).symm

theorem noPart_tail : NoPart back := by
  rintro d rest rfl
  exact absurd rfl (hback '.' List.mem_cons_self).2

/-- What follows the kept text stays behind the number after a dot. -/
theorem afterDot?_append_tail : afterDot? (s ++ back) = (afterDot? s).map (· ++ back) := by
  cases hdot : afterDot? s with
  | some t =>
    obtain ⟨d, t', rfl, rfl, hd⟩ := exists_of_afterDot? hdot
    exact afterDot?_cons hd (t' ++ back)
  | none =>
    refine noPart_iff.mp fun d rest hrest => ?_
    -- the dot and the character behind it stand in `s`, in `back`, or one in each
    rcases s with _ | ⟨c, _ | ⟨c', s⟩⟩
    · exact noPart_tail hback d rest hrest
    · obtain ⟨rfl, rfl⟩ : c = '.' ∧ back = d :: rest := by simpa using hrest
      exact (hback d List.mem_cons_self).1
    · obtain ⟨rfl, rfl, -⟩ : c = '.' ∧ c' = d ∧ s ++ back = rest := by simpa using hrest
      exact noPart_iff.mpr hdot c' s rfl

theorem afterLegacyOne_append_tail : afterLegacyOne (s ++ back) = afterLegacyOne s ++ back := by
  have hstart : StartsAt s (afterLegacyOne s) := startsAt_iff.mpr rfl
  generalize afterLegacyOne s = b at hstart ⊢
  refine (startsAt_iff.mp ?_).symm
  cases hstart with
  | legacy hd => exact .legacy hd
  | front hno =>
    refine .front fun d rest hrest => ?_
    rcases s with _ | ⟨c, _ | ⟨c', _ | ⟨c'', s⟩⟩⟩
    · obtain rfl : back = '1' :: '.' :: d :: rest := hrest
      exact absurd rfl (hback '.' (by simp)).2
    · obtain ⟨-, rfl⟩ : c = '1' ∧ back = '.' :: d :: rest := by simpa using hrest
      exact absurd rfl (hback '.' (by simp)).2
    · obtain ⟨-, -, rfl⟩ : c = '1' ∧ c' = '.' ∧ back = d :: rest := by simpa using hrest
      exact (hback d List.mem_cons_self).1
    · obtain ⟨rfl, rfl, rfl, -⟩ : c = '1' ∧ c' = '.' ∧ c'' = d ∧ s ++ back = rest := by
        simpa using hrest
      exact hno c'' s rfl

/-- What follows the kept text does not change its minor number. -/
theorem minorRun?_append_tail : minorRun? (s ++ back) = minorRun? s := by
  unfold minorRun?
  rw [afterDot?_append_tail hback, Option.map_map]
  refine congrArg (Option.map · (afterDot? s)) (funext fun t => ?_)
  exact leadingRun_append_tail hback t

theorem patchRun?_append_tail : patchRun? (s ++ back) = patchRun? s := by
  have hminor : (afterDot? (s ++ back)).map afterRun = ((afterDot? s).map afterRun).map (· ++ back) := by
    rw [afterDot?_append_tail hback, Option.map_map, Option.map_map]
    exact congrArg (Option.map · (afterDot? s)) (funext fun t => afterRun_append_tail hback t)
  have hpatch : ((afterDot? (s ++ back)).map afterRun).bind afterDot?
      = (((afterDot? s).map afterRun).bind afterDot?).map (· ++ back) := by
    rw [hminor, Option.bind_map, Option.map_bind]
    exact congrArg (Option.bind _) (funext fun t => afterDot?_append_tail hback t)
  unfold patchRun?
  rw [hpatch, Option.map_map]
  exact congrArg (Option.map · _) (funext fun t => leadingRun_append_tail hback t)

end

/-! ## The text that is kept -/

variable {s : String} {v : Version}

/-- The text of a version begins with a digit. -/
theorem isDigit_of_head?_text (h : parse? s = some v) {c : Char} (hc : v.text.toList.head? = some c) :
    isDigit c = true := by
  obtain ⟨-, b, run, rest, -, -, hstart, hrun, -⟩ := parse?_eq_some_iff.mp h
  generalize v.text.toList = t at hc hstart
  cases hstart with
  | legacy hd =>
    obtain rfl : '1' = c := by simpa using hc
    decide +kernel
  | front _ =>
    obtain ⟨d, t', rfl, hd⟩ := hrun.exists_cons
    obtain rfl : d = c := by simpa using hc
    exact hd

theorem not_isQuote_of_isDigit {c : Char} (hc : isDigit c = true) : decide (c = '"') = false := by
  rw [decide_eq_false_iff_not]
  rintro rfl
  exact absurd hc (by decide +kernel)

/-- Blanks, and then quotes, are taken away from the end of the text of a version, and nothing from its front. -/
theorem front_text (h : parse? s = some v) {t : List Char} (ht : IsBare v.text.toList t) :
    ∃ u, Front isBlank v.text.toList u ∧ Front (· = '"') u t := by
  obtain ⟨u, hblanks, hquotes⟩ := ht
  have hfront : Front isBlank v.text.toList u :=
    hblanks.front fun c hc => not_isBlank_of_isDigit (isDigit_of_head?_text h hc)
  exact ⟨u, hfront, hquotes.front fun c hc =>
    not_isQuote_of_isDigit (isDigit_of_head?_text h (hfront.head?_eq hc))⟩

/-- What is trimmed off a version text, blanks and then quotes, is a tail. -/
theorem isTail_of_front {s u t : List Char} (hu : Front isBlank s u) (ht : Front (· = '"') u t) :
    ∃ back, s = t ++ back ∧ IsTail back := by
  obtain ⟨blanks, rfl, hblanks⟩ := hu.exists_back
  obtain ⟨quotes, rfl, hquotes⟩ := ht.exists_back
  refine ⟨quotes ++ blanks, List.append_assoc _ _ _, fun c hc => ?_⟩
  rcases List.mem_append.mp hc with hc | hc
  · obtain rfl : c = '"' := of_decide_eq_true (hquotes c hc)
    decide +kernel
  · have hblank := hblanks c hc
    constructor
    · cases hd : isDigit c with
      | false => rfl
      | true =>
        rw [not_isBlank_of_isDigit hd] at hblank
        cases hblank
    · rintro rfl
      exact absurd hblank (by decide)

/-- What is taken from the end of the text has no part in the numbers. -/
theorem exists_parse?_text (h : parse? s = some v) : ∃ w, parse? v.text = some w ∧
    w.major = v.major ∧ w.minor = v.minor ∧ w.patch = v.patch := by
  obtain ⟨hvalue, hpos, htext, hminor, hpatch⟩ := of_parse?_eq_some h
  obtain ⟨u, hu, ht⟩ := front_text h (isBare_iff.mpr rfl)
  obtain ⟨back, hsplit, hback⟩ := isTail_of_front hu ht
  have hfrom : fromMajor s = fromMajor v.text ++ back := by
    unfold fromMajor
    rw [← htext, ← afterLegacyOne_append_tail hback, ← hsplit]
  rw [hfrom, leadingRun_append_tail hback] at hvalue
  rw [hfrom, afterRun_append_tail hback, minorRun?_append_tail hback] at hminor
  rw [hfrom, afterRun_append_tail hback, patchRun?_append_tail hback] at hpatch
  refine ⟨_, parse?_eq hpos hvalue, rfl, ?_, ?_⟩
  · rw [hminor]
  · rw [hpatch]

/-- The text of a version is read as a version of the same numbers, which is the same version and at least the
same major versions. The text of that one is what is left of the first one without the blanks, and then the
quotes, at its end. -/
theorem read_own_text {s : String} {v : Version} (h : read s = .ok v) :
    ∃ w, read v.text = .ok w ∧ w.major = v.major ∧ w.minor = v.minor ∧ w.patch = v.patch ∧
      w.isSame v = true ∧ (∀ major, w.isAtLeast major = v.isAtLeast major) ∧
      ∃ u, Front isBlank v.text.toList u ∧ Front (· = '"') u w.text.toList := by
  rw [read_eq_ok_iff] at h
  obtain ⟨w, hw, hmajor, hminor, hpatch⟩ := exists_parse?_text h
  have htriple : w.triple = v.triple := by rw [triple, triple, hmajor, hminor, hpatch]
  refine ⟨w, read_eq_ok_iff.mpr hw, hmajor, hminor, hpatch, isSame_iff.mpr htriple, fun major => ?_, ?_⟩
  · rw [isAtLeast, isAtLeast, hmajor]
  · exact front_text h (parse?_eq_some_iff.mp hw).isBare

/-- A blank is left at the end, with a quote before it, and both are gone after the second reading. -/
theorem read_own_text_quoted : ∃ v w, read "\"1.8.0\" \"" = .ok v ∧ v.text = "1.8.0\" " ∧
    read v.text = .ok w ∧ w.text = "1.8.0" ∧ w.major = v.major ∧ w.minor = v.minor ∧
    w.patch = v.patch ∧ w.isSame v = true ∧ w.isAtLeast 8 = v.isAtLeast 8 := by
  have hread : read "\"1.8.0\" \"" = .ok ⟨"1.8.0\" ", 8, some 0, none⟩ := by decide +kernel
  have hagain : read "1.8.0\" " = .ok ⟨"1.8.0", 8, some 0, none⟩ := by decide +kernel
  obtain ⟨w, hw, hmajor, hminor, hpatch, hsame, hleast, -⟩ := read_own_text hread
  obtain rfl := Except.ok.inj (hagain.symm.trans hw)
  exact ⟨_, _, hread, rfl, hw, rfl, hmajor, hminor, hpatch, hsame, hleast 8⟩

end Version

end BuildJdk
