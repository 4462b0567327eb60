import Mathlib.Data.Nat.Digits.Defs
import BuildJdk.Failure
import BuildJdk.Proofs.Trimming

/-!
# What a version text writes

A version text is read run by run: each run of digits goes on as long as it can. `Reads` says so without
saying how: where the text begins and ends within the blanks and quotes around it, which runs of digits stand
in it, and which numbers they write.

Main statement: reading a text gives a version just if the text is one of the grammar, and then the one version
that the grammar allows. Otherwise it fails with the text as it was given.
-/

namespace BuildJdk

namespace Text

variable {run : List Char} {n : Nat}

/-! ## Numbers -/

/-- The number that a run of ASCII digits writes in 32 bits; the last digit counts once. -/
structure Writes (run : List Char) (n : Nat) : Prop where
  isDigit_eq : ∀ c ∈ run, c.isDigit = true
  value_eq : n = Nat.ofDigits 10 (run.reverse.map fun c => c.toNat - '0'.toNat)
  lt : n < 2 ^ 32

theorem ofDigitChars_eq (run : List Char) : Nat.ofDigitChars 10 run 0
    = Nat.ofDigits 10 (run.reverse.map fun c => c.toNat - '0'.toNat) := by
  rw [Nat.ofDigitChars_eq_foldl, Nat.ofDigits_eq_foldr, List.foldr_map, List.foldr_reverse]
  simp only [Nat.cast_id, Nat.add_comm]

/-- A run has a value just if it writes a number that fits in 32 bits. -/
theorem wordValue?_eq_some_iff (hne : run ≠ []) : wordValue? run = some n ↔ Writes run n := by
  unfold wordValue? digitsValue?
  by_cases hdigits : run.all Char.isDigit = true
  · rw [if_pos ⟨hne, hdigits⟩, ofDigitChars_eq, Option.filter_eq_some_iff, Option.some.injEq,
      decide_eq_true_eq]
    constructor
    · rintro ⟨rfl, hlt⟩
      exact ⟨List.all_eq_true.mp hdigits, rfl, hlt⟩
    · intro h
      exact ⟨h.value_eq.symm, h.lt⟩
  · rw [if_neg fun h => hdigits h.2]
    exact iff_of_false nofun fun h => hdigits (List.all_eq_true.mpr h.isDigit_eq)

end Text

namespace Version

open Text

variable {s t b rest run : List Char}

/-! ## The grammar -/

/-- The text inside the blanks, and then the quotes, around it. -/
def IsBare (s t : List Char) : Prop := ∃ u, Inside isBlank s u ∧ Inside (· = '"') u t

/-- A run of digits at the front of a text, as long as it can be, and what follows it. -/
structure Run (s run rest : List Char) : Prop where
  eq_append : s = run ++ rest
  ne_nil : run ≠ []
  isDigit_eq : ∀ c ∈ run, isDigit c = true
  head_not : ∀ c, rest.head? = some c → isDigit c = false

/-- Where the major number is looked for: after a `1.` if a digit follows that, else at the front. -/
inductive StartsAt : List Char → List Char → Prop
  | legacy {d : Char} {rest : List Char} : isDigit d = true →
      StartsAt ('1' :: '.' :: d :: rest) (d :: rest)
  | front {t : List Char} : (∀ d rest, t = '1' :: '.' :: d :: rest → isDigit d = false) → StartsAt t t

/-- No dot with a digit after it comes first. -/
def NoPart (rest : List Char) : Prop := ∀ d s, rest = '.' :: d :: s → isDigit d = false

/-- The minor and the patch run that follow the major one, as far as there are such runs. -/
inductive Parts : List Char → Option (List Char) → Option (List Char) → Prop
  | none {rest : List Char} : NoPart rest → Parts rest none none
  | minor {s run rest : List Char} : Run s run rest → NoPart rest → Parts ('.' :: s) (some run) none
  | patch {s s' run run' rest : List Char} : Run s run ('.' :: s') → Run s' run' rest →
      Parts ('.' :: s) (some run) (some run')

/-- The text writes the version. A minor or patch run that writes no number counts as absent, and neither
has a say in the other. -/
structure Reads (s : String) (v : Version) : Prop where
  isBare : IsBare s.toList v.text.toList
  exists_runs : ∃ b run rest minor patch, StartsAt v.text.toList b ∧ Run b run rest ∧
    Parts rest minor patch ∧ Writes run v.major ∧ 1 ≤ v.major ∧
    (∀ n, v.minor = some n ↔ ∃ run, minor = some run ∧ Writes run n) ∧
    ∀ n, v.patch = some n ↔ ∃ run, patch = some run ∧ Writes run n

/-! ## Where the runs are -/

/-- The bare text is the one that is left without blanks and quotes. -/
theorem isBare_iff : IsBare s t ↔ t = bareText s := by
  unfold IsBare bareText trimBlanks
  simp only [inside_iff, exists_eq_left]

/-- The numbers start where the reader starts. -/
theorem startsAt_iff : StartsAt t b ↔ b = afterLegacyOne t := by
  constructor
  · rintro (hd | hno)
    · rw [afterLegacyOne, if_pos hd]
    · unfold afterLegacyOne
      split
      · next d rest => rw [if_neg (by simp [hno d rest rfl])]
      · rfl
  · rintro rfl
    unfold afterLegacyOne
    split
    · next d rest =>
      split
      · next hd => exact .legacy hd
      · next hd =>
        refine .front fun d' rest' h => ?_
        cases h
        simpa using hd
    · next hno => exact .front fun d rest h => absurd h (hno d rest)

/-- A run is what the reader takes for one. -/
theorem run_iff : Run s run rest ↔
    run ≠ [] ∧ run = leadingRun s ∧ rest = afterRun s := by
  unfold leadingRun afterRun
  constructor
  · rintro ⟨rfl, hne, hrun, hrest⟩
    exact ⟨hne, (takeWhile_append_stop hrun hrest).symm, (dropWhile_append_stop hrun hrest).symm⟩
  · rintro ⟨hne, rfl, rfl⟩
    exact ⟨List.takeWhile_append_dropWhile.symm, hne, fun c => of_mem_takeWhile,
      fun c => of_head?_dropWhile⟩

theorem Run.exists_cons (h : Run s run rest) : ∃ d s', s = d :: s' ∧ isDigit d = true := by
  obtain ⟨d, run', hrun⟩ := List.exists_cons_of_ne_nil h.ne_nil
  exact ⟨d, run' ++ rest, by rw [h.eq_append, hrun, List.cons_append],
    h.isDigit_eq d (by simp [hrun])⟩

theorem run_of_isDigit {d : Char} (hd : isDigit d = true) (s : List Char) :
    Run (d :: s) (leadingRun (d :: s)) (afterRun (d :: s)) := by
  refine run_iff.mpr ⟨?_, rfl, rfl⟩
  rw [leadingRun, List.takeWhile_cons_of_pos hd]
  exact List.cons_ne_nil _ _

theorem afterDot?_cons {d : Char} (hd : isDigit d = true) (s : List Char) :
    afterDot? ('.' :: d :: s) = some (d :: s) := if_pos hd

theorem noPart_iff : NoPart rest ↔ afterDot? rest = none := by
  constructor
  · intro h
    unfold afterDot?
    split
    · next d s => rw [if_neg (by simp [h d s rfl])]
    · rfl
  · rintro h d s rfl
    cases hd : isDigit d with
    | false => rfl
    | true =>
      rw [afterDot?_cons hd] at h
      cases h

theorem exists_of_afterDot? (h : afterDot? rest = some s) :
    ∃ d s', s = d :: s' ∧ rest = '.' :: s ∧ isDigit d = true := by
  unfold afterDot? at h
  split at h
  · next d s' =>
    split at h
    · next hd =>
      cases h
      exact ⟨d, s', rfl, rfl, hd⟩
    · cases h
  · cases h

theorem Run.afterDot?_eq (h : Run s run rest) : afterDot? ('.' :: s) = some s := by
  obtain ⟨d, s', rfl, hd⟩ := h.exists_cons
  exact afterDot?_cons hd s'

theorem Run.leadingRun_eq (h : Run s run rest) : leadingRun s = run := (run_iff.mp h).2.1.symm

theorem Run.afterRun_eq (h : Run s run rest) : afterRun s = rest := (run_iff.mp h).2.2.symm

/-- The run after a dot at the front. -/
def minorRun? (rest : List Char) : Option (List Char) := (afterDot? rest).map leadingRun

/-- The run after the run after a dot at the front, and another dot. -/
def patchRun? (rest : List Char) : Option (List Char) :=
  (((afterDot? rest).map afterRun).bind afterDot?).map leadingRun

/-- The parts are those that the reader takes. -/
theorem parts_iff {minor patch : Option (List Char)} :
    Parts rest minor patch ↔ minor = minorRun? rest ∧ patch = patchRun? rest := by
  unfold minorRun? patchRun?
  constructor
  · intro h
    cases h with
    | none hno => simp [noPart_iff.mp hno]
    | minor hrun hno => simp [hrun.afterDot?_eq, hrun.leadingRun_eq, hrun.afterRun_eq, noPart_iff.mp hno]
    | patch hrun hrun' =>
      simp [hrun.afterDot?_eq, hrun.leadingRun_eq, hrun.afterRun_eq, hrun'.afterDot?_eq,
        hrun'.leadingRun_eq]
  · rintro ⟨rfl, rfl⟩
    cases hminor : afterDot? rest with
    | none => exact .none (noPart_iff.mpr hminor)
    | some s =>
      obtain ⟨d, s', rfl, rfl, hd⟩ := exists_of_afterDot? hminor
      have hrun := run_of_isDigit hd s'
      cases hpatch : afterDot? (afterRun (d :: s')) with
      | none =>
        simp only [Option.map_some, Option.bind_some, hpatch, Option.map_none]
        exact .minor hrun (noPart_iff.mpr hpatch)
      | some u =>
        obtain ⟨d', u', rfl, hrest, hd'⟩ := exists_of_afterDot? hpatch
        simp only [Option.map_some, Option.bind_some, hpatch]
        rw [hrest] at hrun
        exact .patch hrun (run_of_isDigit hd' u')

/-! ## What the runs write -/

theorem wordValue?_nil : wordValue? [] = none := rfl

/-- A run that writes no number counts as absent. -/
theorem eq_bind_wordValue?_iff {x : Option Nat} {part : Option (List Char)}
    (hne : ∀ run, part = some run → run ≠ []) :
    (∀ n, x = some n ↔ ∃ run, part = some run ∧ Writes run n) ↔ x = part.bind wordValue? := by
  have hpart : ∀ n, (∃ run, part = some run ∧ Writes run n) ↔ part.bind wordValue? = some n := by
    intro n
    rw [Option.bind_eq_some_iff]
    refine exists_congr fun run => and_congr_right fun hrun => ?_
    exact (wordValue?_eq_some_iff (hne run hrun)).symm
  constructor
  · intro h
    apply Option.ext
    intro n
    rw [h, hpart]
  · rintro rfl n
    rw [hpart]

theorem Parts.ne_nil {minor patch : Option (List Char)} (h : Parts rest minor patch) :
    (∀ run, minor = some run → run ≠ []) ∧ ∀ run, patch = some run → run ≠ [] := by
  cases h with
  | none => exact ⟨nofun, nofun⟩
  | minor hrun =>
    refine ⟨?_, nofun⟩
    rintro _ ⟨⟩
    exact hrun.ne_nil
  | patch hrun hrun' =>
    constructor
    · rintro _ ⟨⟩
      exact hrun.ne_nil
    · rintro _ ⟨⟩
      exact hrun'.ne_nil

/-- The text from the major run on. -/
def fromMajor (s : String) : List Char := afterLegacyOne (bareText s.toList)

/-- The version of a text whose major run writes a number other than zero. -/
theorem parse?_eq {s : String} {major : Nat} (hpos : 1 ≤ major)
    (hvalue : wordValue? (leadingRun (fromMajor s)) = some major) : parse? s = some {
      text := String.ofList (bareText s.toList)
      major
      minor := (minorRun? (afterRun (fromMajor s))).bind wordValue?
      patch := (patchRun? (afterRun (fromMajor s))).bind wordValue? } := by
  obtain ⟨major, rfl⟩ : ∃ k, major = k + 1 := ⟨major - 1, by omega⟩
  unfold fromMajor at hvalue ⊢
  unfold parse? minorRun? patchRun?
  simp only [hvalue, Option.bind_map]
  rfl

/-- A text whose major number has no value, or the value zero, is no version. -/
theorem parse?_eq_none {s : String} (hvalue : wordValue? (leadingRun (fromMajor s)) = none ∨
    wordValue? (leadingRun (fromMajor s)) = some 0) : parse? s = none := by
  unfold fromMajor at hvalue
  unfold parse?
  rcases hvalue with hvalue | hvalue
  · simp only [hvalue]
  · simp only [hvalue]

/-- What is read of a text, field by field. -/
theorem of_parse?_eq_some {s : String} {v : Version} (h : parse? s = some v) :
    wordValue? (leadingRun (fromMajor s)) = some v.major ∧ 1 ≤ v.major ∧
      v.text.toList = bareText s.toList ∧
      v.minor = (minorRun? (afterRun (fromMajor s))).bind wordValue? ∧
      v.patch = (patchRun? (afterRun (fromMajor s))).bind wordValue? := by
  cases hvalue : wordValue? (leadingRun (fromMajor s)) with
  | none =>
    rw [parse?_eq_none (.inl hvalue)] at h
    exact absurd h nofun
  | some major =>
    by_cases hpos : 1 ≤ major
    · rw [parse?_eq hpos hvalue, Option.some.injEq] at h
      rw [← h, String.toList_ofList]
      dsimp only
      exact ⟨rfl, hpos, rfl, rfl, rfl⟩
    · obtain rfl : major = 0 := by omega
      rw [parse?_eq_none (.inr hvalue)] at h
      exact absurd h nofun

/-- The major run of a text, and what it writes. -/
theorem run_fromMajor {s : String} {major : Nat}
    (hvalue : wordValue? (leadingRun (fromMajor s)) = some major) :
    Run (fromMajor s) (leadingRun (fromMajor s)) (afterRun (fromMajor s)) ∧
      Writes (leadingRun (fromMajor s)) major := by
  have hne : leadingRun (fromMajor s) ≠ [] := by
    intro hnil
    rw [hnil, wordValue?_nil] at hvalue
    cases hvalue
  exact ⟨run_iff.mpr ⟨hne, rfl, rfl⟩, (wordValue?_eq_some_iff hne).mp hvalue⟩

theorem wordValue?_fromMajor {s : String} {major : Nat} (hbare : IsBare s.toList t)
    (hstart : StartsAt t b) (hrun : Run b run rest) (hmajor : Writes run major) :
    b = fromMajor s ∧ wordValue? (leadingRun (fromMajor s)) = some major := by
  obtain rfl := isBare_iff.mp hbare
  obtain rfl := startsAt_iff.mp hstart
  refine ⟨rfl, ?_⟩
  rw [fromMajor, hrun.leadingRun_eq]
  exact (wordValue?_eq_some_iff hrun.ne_nil).mpr hmajor

/-! ## Reading -/

/-- The runs that stand in the text decide what is read. -/
theorem parse?_eq_some_iff {s : String} {v : Version} : parse? s = some v ↔ Reads s v := by
  constructor
  · intro h
    obtain ⟨hvalue, hpos, htext, hminor, hpatch⟩ := of_parse?_eq_some h
    obtain ⟨hrun, hmajor⟩ := run_fromMajor hvalue
    have hparts : Parts (afterRun (fromMajor s)) (minorRun? _) (patchRun? _) :=
      parts_iff.mpr ⟨rfl, rfl⟩
    refine ⟨isBare_iff.mpr htext, fromMajor s, _, _, _, _, ?_, hrun, hparts, hmajor, hpos,
      (eq_bind_wordValue?_iff hparts.ne_nil.1).mpr hminor,
      (eq_bind_wordValue?_iff hparts.ne_nil.2).mpr hpatch⟩
    rw [htext]
    exact startsAt_iff.mpr rfl
  · rintro ⟨hbare, b, run, rest, minor, patch, hstart, hrun, hparts, hmajor, hpos, hminor, hpatch⟩
    obtain ⟨rfl, hvalue⟩ := wordValue?_fromMajor hbare hstart hrun hmajor
    rw [eq_bind_wordValue?_iff hparts.ne_nil.1] at hminor
    rw [eq_bind_wordValue?_iff hparts.ne_nil.2] at hpatch
    obtain ⟨rfl, rfl⟩ := parts_iff.mp hparts
    rw [← hrun.afterRun_eq] at hminor hpatch
    rw [parse?_eq hpos hvalue, ← hminor, ← hpatch, ← isBare_iff.mp hbare, String.ofList_toList]

/-- A text is a version just if it starts with a major number of at least one. -/
theorem exists_parse?_iff {s : String} : (∃ v, parse? s = some v) ↔ ∃ t b run rest major,
    IsBare s.toList t ∧ StartsAt t b ∧ Run b run rest ∧ Writes run major ∧ 1 ≤ major := by
  constructor
  · rintro ⟨v, hv⟩
    obtain ⟨hbare, b, run, rest, _, _, hstart, hrun, _, hmajor, hpos, _⟩ := parse?_eq_some_iff.mp hv
    exact ⟨_, b, run, rest, v.major, hbare, hstart, hrun, hmajor, hpos⟩
  · rintro ⟨t, b, run, rest, major, hbare, hstart, hrun, hmajor, hpos⟩
    obtain ⟨rfl, hvalue⟩ := wordValue?_fromMajor hbare hstart hrun hmajor
    exact ⟨_, parse?_eq hpos hvalue⟩

/-- Reading fails where parsing finds no version, and nowhere else. -/
theorem read_eq_ok_iff {s : String} {v : Version} : read s = .ok v ↔ parse? s = some v := by
  unfold read
  cases parse? s with
  | none => exact iff_of_false nofun nofun
  | some w => simp

/-- The failure tells the text as it was given. -/
theorem eq_of_read_eq_error {s : String} {e : Failure} (h : read s = .error e) :
    e = .badVersion s := by
  unfold read at h
  cases hv : parse? s with
  | none =>
    rw [hv] at h
    exact (Except.error.inj h).symm
  | some v =>
    rw [hv] at h
    cases h

/-- A text is read as a version just if it writes that version. It writes one just if its major run writes a
number other than zero; otherwise the failure names the text with all that is around it. -/
theorem read_iff_grammar (s : String) :
    (∀ v, read s = .ok v ↔ Reads s v) ∧
    ((∃ v, read s = .ok v) ↔ ∃ t b run rest major, IsBare s.toList t ∧ StartsAt t b ∧
      Run b run rest ∧ Writes run major ∧ 1 ≤ major) ∧
    ∀ e, read s = .error e → e = .badVersion s := by
  refine ⟨fun v => ?_, ?_, fun e => eq_of_read_eq_error⟩
  · rw [read_eq_ok_iff, parse?_eq_some_iff]
  · simp only [read_eq_ok_iff, exists_parse?_iff]

end Version

end BuildJdk
