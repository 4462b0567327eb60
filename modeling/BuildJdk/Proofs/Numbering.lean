import BuildJdk.Proofs.Decimal
import BuildJdk.Proofs.VersionText

/-!
# Versions written from their numbers

A version is written from its numbers in two spellings: with `1.` in front of the major number, or without. The
text may go on in any way that neither prolongs the last number nor adds another one.

Main statement: both spellings are read as the numbers they were written from, so versions are in the order of
these numbers, whatever the spellings and the rest of the texts. Only the major number 1 cannot go without the
`1.` in front: in `1.2` the one is no major number.
-/

namespace BuildJdk

/-! ## Numbers in digits -/

namespace Text

/-- The digits of ASCII are among the digits. -/
theorem isDigit_of_ascii {c : Char} (hc : c.isDigit = true) : isDigit c = true := by
  have hrange : 0x30 ≤ c.toNat ∧ c.toNat ≤ 0x39 := by
    simpa [Char.isDigit, Char.le_def, UInt32.le_iff_toNat_le] using hc
  simp [isDigit, inRanges, digitRanges, hrange]

theorem not_isBlank_of_isDigit {c : Char} (hc : isDigit c = true) : isBlank c = false :=
  inRanges_eq_false_of_apart (by decide +kernel) hc

/-- The digits of a number write it. -/
theorem wordValue?_repr {n : Nat} (hn : n < 2 ^ 32) : wordValue? n.repr.toList = some n := by
  have hdigits : n.repr.toList.all Char.isDigit = true := by
    rw [List.all_eq_true]
    intro c hc
    exact isDigit_of_mem_repr hc
  have hvalue : digitsValue? n.repr.toList = some n := by
    unfold digitsValue?
    rw [if_pos ⟨repr_ne_nil n, hdigits⟩, Nat.toList_repr, Nat.ofDigitChars_ten_toDigits]
  have hlimit : n < wordLimit := hn
  unfold wordValue?
  rw [hvalue, Option.filter_some, if_pos (by simpa using hlimit)]

theorem isDigit_getLast?_repr {front : List Char} {n : Nat} {c : Char}
    (hc : (front ++ n.repr.toList).getLast? = some c) : c.isDigit = true := by
  obtain ⟨init, d, hrepr⟩ := (List.eq_nil_or_concat n.repr.toList).resolve_left (repr_ne_nil n)
  have hcd : d = c := by simpa [hrepr] using hc
  rw [← hcd]
  exact isDigit_of_mem_repr (n := n) (by simp [hrepr])

end Text

namespace Version

open Text

/-! ## Spellings -/

/-- The numbers that a version is written from: words, the major one not zero, and a patch number only behind a
minor one. -/
structure Numbering where
  major : Nat
  minor : Option Nat
  patch : Option Nat
  major_pos : 1 ≤ major
  major_lt : major < 2 ^ 32
  minor_lt : ∀ m, minor = some m → m < 2 ^ 32
  patch_lt : ∀ p, patch = some p → p < 2 ^ 32
  minor_ne : patch ≠ none → minor ≠ none

/-- A number behind a dot, if there is one. -/
def dotted : Option Nat → String
  | none => ""
  | some n => "." ++ n.repr

namespace Numbering

/-- The numbers, divided by dots. -/
def text (n : Numbering) : String := n.major.repr ++ dotted n.minor ++ dotted n.patch

/-- The three numbers, an absent one counting as zero. -/
def triple (n : Numbering) : Nat × Nat × Nat := (n.major, n.minor.getD 0, n.patch.getD 0)

/-- The rest is no part of the numbers before it: it begins neither with a digit nor, where another number
could stand, with a dot and a digit. -/
structure EndsBefore (n : Numbering) (rest : List Char) : Prop where
  head_not : ∀ c, rest.head? = some c → isDigit c = false
  noPart : n.patch = none → NoPart rest

/-- The text is spelled from the numbers, and may go on after them. -/
inductive Spells (n : Numbering) : String → Prop
  | legacy {rest : String} : n.EndsBefore rest.toList → Spells n ("1." ++ n.text ++ rest)
  | modern {rest : String} : 2 ≤ n.major → n.EndsBefore rest.toList → Spells n (n.text ++ rest)

end Numbering

/-- The order of three numbers, the first ones first. -/
def Below (a b : Nat × Nat × Nat) : Prop :=
  a.1 < b.1 ∨ a.1 = b.1 ∧ (a.2.1 < b.2.1 ∨ a.2.1 = b.2.1 ∧ a.2.2 < b.2.2)

/-! ## What surrounds the numbers -/

/-- Trimming takes nothing but from the rest of a text that begins and ends with digits before it. -/
theorem exists_isBare_append {w : List Char} (hhead : ∀ c, w.head? = some c → isDigit c = true)
    (hlast : ∀ c, w.getLast? = some c → isDigit c = true) (hne : w ≠ []) (rest : List Char) :
    ∃ kept, kept <+: rest ∧ IsBare (w ++ rest) (w ++ kept) := by
  have hblank : ∀ c, isDigit c = true → isBlank c = false := fun c => not_isBlank_of_isDigit
  have hquote : ∀ c, isDigit c = true → decide (c = '"') = false := by
    intro c hc
    rw [decide_eq_false_iff_not]
    rintro rfl
    exact absurd hc (by decide +kernel)
  have hfront : ∀ c t, (w ++ t).head? = some c → isDigit c = true := by
    intro c t hc
    obtain ⟨d, w', rfl⟩ := List.exists_cons_of_ne_nil hne
    exact hhead c hc
  have hinner := front_dropFinal isBlank rest
  have hkept := front_dropFinal (· = '"') (dropFinal isBlank rest)
  refine ⟨dropFinal (· = '"') (dropFinal isBlank rest), ?_, w ++ dropFinal isBlank rest, ?_, ?_⟩
  · obtain ⟨back, hback, -⟩ := hinner.exists_back
    obtain ⟨back', hback', -⟩ := hkept.exists_back
    refine ⟨back' ++ back, ?_⟩
    rw [← List.append_assoc, ← hback', ← hback]
  · exact (hinner.append fun c hc => hblank c (hlast c hc)).inside fun c hc => hblank c (hfront c _ hc)
  · exact (hkept.append fun c hc => hquote c (hlast c hc)).inside fun c hc => hquote c (hfront c _ hc)

theorem Numbering.EndsBefore.of_prefix {n : Numbering} {rest kept : List Char}
    (h : n.EndsBefore rest) (hkept : kept <+: rest) : n.EndsBefore kept := by
  obtain ⟨back, rfl⟩ := hkept
  constructor
  · intro c hc
    apply h.head_not
    rw [List.head?_append, hc, Option.some_or]
  · rintro hnone d s rfl
    exact h.noPart hnone d (s ++ back) rfl

/-! ## The numbers in the text -/

/-- The digits of a number are a run where no digit follows. -/
theorem run_repr (n : Nat) {rest : List Char} (hrest : ∀ c, rest.head? = some c → isDigit c = false) :
    Run (n.repr.toList ++ rest) n.repr.toList rest :=
  ⟨rfl, repr_ne_nil n, fun _ hc => isDigit_of_ascii (isDigit_of_mem_repr hc), hrest⟩

theorem not_isDigit_dot {s : List Char} : ∀ c, ('.' :: s).head? = some c → isDigit c = false := by
  rintro _ ⟨⟩
  decide +kernel

theorem toList_dotted (n : Nat) : (dotted (some n)).toList = '.' :: n.repr.toList := by
  simp [dotted]

namespace Numbering

variable {n : Numbering} {rest : List Char}

/-- Behind the major number stand the runs of the others. -/
theorem parts_dotted (h : n.EndsBefore rest) :
    Parts ((dotted n.minor).toList ++ ((dotted n.patch).toList ++ rest))
      (n.minor.map fun m => m.repr.toList) (n.patch.map fun p => p.repr.toList) := by
  cases hpatch : n.patch with
  | none =>
    cases hminor : n.minor with
    | none => exact .none (h.noPart hpatch)
    | some m =>
      rw [toList_dotted]
      exact Parts.minor (run_repr m h.head_not) (h.noPart hpatch)
  | some p =>
    cases hminor : n.minor with
    | none => exact absurd hminor (n.minor_ne (by simp [hpatch]))
    | some m =>
      rw [toList_dotted, toList_dotted]
      exact Parts.patch (run_repr m not_isDigit_dot) (run_repr p h.head_not)

/-- The major number is the run in front of the others. -/
theorem run_text (h : n.EndsBefore rest) : Run (n.text.toList ++ rest) n.major.repr.toList
    ((dotted n.minor).toList ++ ((dotted n.patch).toList ++ rest)) := by
  have hstop : ∀ c, ((dotted n.minor).toList ++ ((dotted n.patch).toList ++ rest)).head? = some c →
      isDigit c = false := by
    cases hminor : n.minor with
    | some m =>
      rw [toList_dotted, List.cons_append]
      exact not_isDigit_dot
    | none =>
      cases hpatch : n.patch with
      | some p => exact absurd hminor (n.minor_ne (by simp [hpatch]))
      | none => exact h.head_not
  simpa [text] using run_repr n.major hstop

/-- A part that is a number is what its digits write. -/
theorem eq_bind_wordValue? {x : Option Nat} (hx : ∀ k, x = some k → k < 2 ^ 32) :
    x = (x.map fun k => k.repr.toList).bind wordValue? := by
  cases x with
  | none => rfl
  | some k => exact (wordValue?_repr (hx k rfl)).symm

/-- A text in which the numbers are looked for where they stand writes them. -/
theorem reads_of_startsAt {s : String} {t : List Char} (hbare : IsBare s.toList t)
    (hstart : StartsAt t (n.text.toList ++ rest)) (h : n.EndsBefore rest) :
    Reads s ⟨String.ofList t, n.major, n.minor, n.patch⟩ := by
  have hparts := parts_dotted h
  have hmajor : Writes n.major.repr.toList n.major :=
    (wordValue?_eq_some_iff (repr_ne_nil _)).mp (wordValue?_repr n.major_lt)
  refine ⟨by simpa using hbare, _, _, _, _, _, by simpa using hstart, run_text h, hparts, hmajor,
    n.major_pos, ?_, ?_⟩
  · exact (eq_bind_wordValue?_iff hparts.ne_nil.1).mpr (eq_bind_wordValue? n.minor_lt)
  · exact (eq_bind_wordValue?_iff hparts.ne_nil.2).mpr (eq_bind_wordValue? n.patch_lt)

theorem head?_text {c : Char} (hc : n.text.toList.head? = some c) : c.isDigit = true := by
  obtain ⟨d, s, hrepr⟩ := List.exists_cons_of_ne_nil (repr_ne_nil n.major)
  have hcd : d = c := by simpa [text, hrepr] using hc
  rw [← hcd]
  exact isDigit_of_mem_repr (n := n.major) (by simp [hrepr])

/-- A number ends the text. -/
theorem exists_text_eq (n : Numbering) : ∃ front, ∃ k : Nat, n.text.toList = front ++ k.repr.toList := by
  cases hpatch : n.patch with
  | some p =>
    refine ⟨n.major.repr.toList ++ (dotted n.minor).toList ++ ['.'], p, ?_⟩
    simp [text, hpatch, toList_dotted]
  | none =>
    cases hminor : n.minor with
    | some m => exact ⟨n.major.repr.toList ++ ['.'], m, by simp [text, hpatch, hminor, dotted]⟩
    | none => exact ⟨[], n.major, by simp [text, hpatch, hminor, dotted]⟩

/-- With `1.` in front, the major number is looked for behind it. -/
theorem startsAt_legacy (n : Numbering) (rest : List Char) :
    StartsAt ('1' :: '.' :: (n.text.toList ++ rest)) (n.text.toList ++ rest) := by
  obtain ⟨d, s, hrepr⟩ := List.exists_cons_of_ne_nil (repr_ne_nil n.major)
  have hd : isDigit d = true := isDigit_of_ascii (isDigit_of_mem_repr (n := n.major) (by simp [hrepr]))
  have htext : n.text.toList = d :: (s ++ (dotted n.minor).toList ++ (dotted n.patch).toList) := by
    simp [text, hrepr]
  rw [htext]
  exact .legacy hd

/-- Without it, the major number is looked for in front, as long as it is not 1 itself. -/
theorem startsAt_modern (hmajor : 2 ≤ n.major) (h : n.EndsBefore rest) :
    StartsAt (n.text.toList ++ rest) (n.text.toList ++ rest) := by
  refine .front fun d s heq => ?_
  have hrun := (run_text h).leadingRun_eq
  have hone : leadingRun ('1' :: '.' :: d :: s) = ['1'] := by
    rw [leadingRun, List.takeWhile_cons_of_pos (by decide +kernel),
      List.takeWhile_cons_of_neg (by decide +kernel)]
  rw [heq, hone] at hrun
  have hvalue := wordValue?_repr n.major_lt
  rw [← hrun, show wordValue? ['1'] = some 1 from by decide] at hvalue
  have := Option.some.inj hvalue
  omega

theorem exists_read_of_startsAt {front rest : String} (hrest : n.EndsBefore rest.toList)
    (hfront : ∀ c, front.toList.head? = some c → isDigit c = true)
    (hstart : ∀ kept, n.EndsBefore kept →
      StartsAt (front.toList ++ n.text.toList ++ kept) (n.text.toList ++ kept)) :
    ∃ v, read (front ++ n.text ++ rest) = .ok v ∧
      v.major = n.major ∧ v.minor = n.minor ∧ v.patch = n.patch := by
  have hhead : ∀ c, (front.toList ++ n.text.toList).head? = some c → isDigit c = true := by
    intro c hc
    cases hlist : front.toList with
    | nil => exact isDigit_of_ascii (head?_text (n := n) (by simpa [hlist] using hc))
    | cons d s => exact hfront c (by simpa [hlist] using hc)
  have hlast : ∀ c, (front.toList ++ n.text.toList).getLast? = some c → isDigit c = true := by
    intro c hc
    obtain ⟨init, k, htext⟩ := n.exists_text_eq
    rw [htext, ← List.append_assoc] at hc
    exact isDigit_of_ascii (isDigit_getLast?_repr hc)
  have hne : front.toList ++ n.text.toList ≠ [] := by simp [text]
  obtain ⟨kept, hkept, hbare⟩ := exists_isBare_append hhead hlast hne rest.toList
  have hends := hrest.of_prefix hkept
  have hreads := reads_of_startsAt (s := front ++ n.text ++ rest) (by simpa using hbare)
    (hstart kept hends) hends
  exact ⟨_, read_eq_ok_iff.mpr (parse?_eq_some_iff.mpr hreads), rfl, rfl, rfl⟩

/-- A text that is spelled from numbers is read as these numbers. -/
theorem Spells.exists_read {s : String} (h : n.Spells s) : ∃ v, read s = .ok v ∧
    v.major = n.major ∧ v.minor = n.minor ∧ v.patch = n.patch := by
  cases h with
  | legacy hrest =>
    refine exists_read_of_startsAt hrest ?_ fun kept _ => startsAt_legacy n kept
    rintro _ ⟨⟩
    decide +kernel
  | modern hmajor hrest =>
    rw [← String.empty_append (s := n.text)]
    refine exists_read_of_startsAt hrest (by simp) fun kept hkept => ?_
    simpa using startsAt_modern hmajor hkept

end Numbering

/-! ## The order of versions -/

section

variable {v w : Version}

/-- The three numbers of a version, an absent one counting as zero. -/
def triple (v : Version) : Nat × Nat × Nat := (v.major, v.minor.getD 0, v.patch.getD 0)

theorem compare_eq : v.compare w = (Ord.compare v.major w.major).then
    ((Ord.compare (v.minor.getD 0) (w.minor.getD 0)).then
      (Ord.compare (v.patch.getD 0) (w.patch.getD 0))) := by
  unfold compare numbers
  simp

/-- The order of versions is that of their numbers, the major one first. -/
theorem compare_eq_lt_iff : v.compare w = .lt ↔ Below v.triple w.triple := by
  simp only [compare_eq, Ordering.then_eq_lt, Nat.compare_eq_lt, Nat.compare_eq_eq, Below, triple]

theorem compare_eq_gt_iff : v.compare w = .gt ↔ Below w.triple v.triple := by
  simp only [compare_eq, Ordering.then_eq_gt, Nat.compare_eq_gt, Nat.compare_eq_eq, Below, triple,
    eq_comm (a := v.major), eq_comm (a := v.minor.getD 0)]

/-- Versions with the same numbers compare equal, whatever their texts. -/
theorem compare_eq_eq_iff : v.compare w = .eq ↔ v.triple = w.triple := by
  simp only [compare_eq, Ordering.then_eq_eq, Nat.compare_eq_eq, triple, Prod.mk.injEq]

/-- Versions are the same if their numbers are. -/
theorem isSame_iff : v.isSame w = true ↔ v.triple = w.triple := by
  rw [← compare_eq_eq_iff]
  exact beq_iff_eq

theorem isAtLeast_iff {major : Nat} : v.isAtLeast major = true ↔ major ≤ v.major := decide_eq_true_iff

end

/-- Two texts that are spelled from numbers, each in either spelling, are read as these numbers. The versions
come in the order of the numbers, an absent one counting as zero, and are the same just if the numbers are. -/
theorem spellings_agree {n n' : Numbering} {s s' : String} (h : n.Spells s) (h' : n'.Spells s') :
    ∃ v v', read s = .ok v ∧ read s' = .ok v' ∧
      (v.major = n.major ∧ v.minor = n.minor ∧ v.patch = n.patch) ∧
      (v.compare v' = .lt ↔ Below n.triple n'.triple) ∧
      (v.compare v' = .eq ↔ n.triple = n'.triple) ∧
      (v.compare v' = .gt ↔ Below n'.triple n.triple) ∧
      (v.isSame v' = true ↔ n.triple = n'.triple) ∧
      ∀ major, v.isAtLeast major = true ↔ major ≤ n.major := by
  obtain ⟨v, hread, hmajor, hminor, hpatch⟩ := h.exists_read
  obtain ⟨v', hread', hmajor', hminor', hpatch'⟩ := h'.exists_read
  have htriple : v.triple = n.triple := by rw [triple, Numbering.triple, hmajor, hminor, hpatch]
  have htriple' : v'.triple = n'.triple := by rw [triple, Numbering.triple, hmajor', hminor', hpatch']
  refine ⟨v, v', hread, hread', ⟨hmajor, hminor, hpatch⟩, ?_, ?_, ?_, ?_, fun major => ?_⟩
  · rw [compare_eq_lt_iff, htriple, htriple']
  · rw [compare_eq_eq_iff, htriple, htriple']
  · rw [compare_eq_gt_iff, htriple, htriple']
  · rw [isSame_iff, htriple, htriple']
  · rw [isAtLeast_iff, hmajor]

/-- `11.0.12` is later than `1.8.0`, though it comes first as a text, and the rest of either text has no say. -/
theorem spellings_agree_java8 :
    let n : Numbering := ⟨8, some 0, none, by decide, by decide, by decide, by decide, by decide⟩
    let n' : Numbering := ⟨11, some 0, some 12, by decide, by decide, by decide, by decide, by decide⟩
    ∃ v v', read "1.8.0_292" = .ok v ∧ read "11.0.12.5\" " = .ok v' ∧
      (v.major = 8 ∧ v.minor = some 0 ∧ v.patch = none) ∧
      (v.compare v' = .lt ↔ Below n.triple n'.triple) ∧
      (v.compare v' = .eq ↔ n.triple = n'.triple) ∧
      (v.compare v' = .gt ↔ Below n'.triple n.triple) ∧
      (v.isSame v' = true ↔ n.triple = n'.triple) ∧
      ∀ major, v.isAtLeast major = true ↔ major ≤ 8 := by
  intro n n'
  have hspells : n.Spells "1.8.0_292" := by
    have htext : "1." ++ n.text ++ "_292" = "1.8.0_292" := by decide +kernel
    have hends : n.EndsBefore "_292".toList := by
      refine ⟨fun c hc => ?_, fun _ => nofun⟩
      obtain rfl : '_' = c := by simpa using hc
      decide
    rw [← htext]
    exact .legacy hends
  have hspells' : n'.Spells "11.0.12.5\" " := by
    have htext : n'.text ++ ".5\" " = "11.0.12.5\" " := by decide +kernel
    have hends : n'.EndsBefore ".5\" ".toList := by
      refine ⟨fun c hc => ?_, nofun⟩
      obtain rfl : '.' = c := by simpa using hc
      decide
    rw [← htext]
    exact .modern (by decide) hends
  exact spellings_agree hspells hspells'

end Version

end BuildJdk
