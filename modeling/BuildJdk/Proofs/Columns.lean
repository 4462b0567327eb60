import BuildJdk.Report.Scan

/-!
# The columns of a scan report

Each line of the report on a scan has a name, a detail and a home. The name stands in a column of 24 characters,
and an error in one of 12, but a version is written as it is. So the home stands right behind both columns just
in the lines without a version, and in those whose version happens to fill its column.
-/

namespace BuildJdk

namespace Text

theorem length_column (width : Nat) (s : String) : (column width s).length = max s.length width := by
  simp only [column, String.length_append, String.length_ofList, List.length_replicate]
  omega

end Text

namespace Report.ScanEntry

open Text (column length_column)

variable {e : ScanEntry} {k k' : Nat}

/-- The text of the first column: the name of the installation, if it was probed. -/
def nameText (e : ScanEntry) : String :=
  match e.probed with
  | some p => p.label
  | none => "unknown"

/-- The text of the second column: the version, or else the error. -/
def detailText (e : ScanEntry) : String :=
  match e.probed with
  | some p => p.version.text
  | none => e.error.getD "-"

/-- The texts of both columns are no wider than their columns. -/
structure Fits (e : ScanEntry) : Prop where
  nameText_le : e.nameText.length ≤ 24
  detailText_le : e.detailText.length ≤ 12

/-- The home begins at a place in the line: so many characters stand in front of it, and nothing but the line
feed after it. -/
def HomeAt (e : ScanEntry) (k : Nat) : Prop :=
  ∃ front : String, e.text = front ++ e.home.text ++ "\n" ∧ front.length = k

/-- Where a home belongs: behind a margin of two characters and the two columns, each with a space after it. -/
def homeColumn : Nat := 2 + (24 + 1) + (12 + 1)

theorem HomeAt.unique (h : e.HomeAt k) (h' : e.HomeAt k') : k = k' := by
  obtain ⟨front, htext, rfl⟩ := h
  obtain ⟨front', htext', rfl⟩ := h'
  have hlength := congrArg String.length (htext.symm.trans htext')
  simp only [String.length_append] at hlength
  omega

/-- Only the first column is sure to have its width. -/
theorem homeAt_of_text {name detail : String} (hname : name.length ≤ 24)
    (h : e.text = "  " ++ column 24 name ++ " " ++ detail ++ " " ++ e.home.text ++ "\n") :
    e.HomeAt (2 + (24 + 1) + (detail.length + 1)) := by
  refine ⟨_, h, ?_⟩
  have hspaces : ("  " : String).length = 2 ∧ (" " : String).length = 1 := by decide
  rw [String.length_append, String.length_append, String.length_append, String.length_append,
    length_column, Nat.max_eq_right hname, hspaces.1, hspaces.2]
  omega

theorem homeAt_of_none (h : e.probed = none) (hfit : e.Fits) : e.HomeAt homeColumn := by
  obtain ⟨hname, hdetail⟩ := hfit
  simp only [nameText, detailText, h] at hname hdetail
  have hat : e.HomeAt (2 + (24 + 1) + ((column 12 (e.error.getD "-")).length + 1)) :=
    homeAt_of_text hname (by simp [text, h])
  rwa [length_column, Nat.max_eq_right hdetail] at hat

/-- The version of an installation is not filled up. -/
theorem homeAt_of_some {p : Probed} (h : e.probed = some p) (hfit : e.Fits) :
    e.HomeAt (2 + (24 + 1) + (p.version.text.length + 1)) := by
  have hname := hfit.nameText_le
  simp only [nameText, h] at hname
  exact homeAt_of_text hname (by simp [text, h])

theorem homeAt_homeColumn_iff (hfit : e.Fits) :
    e.HomeAt homeColumn ↔ ∀ p, e.probed = some p → p.version.text.length = 12 := by
  cases hprobed : e.probed with
  | none => exact iff_of_true (homeAt_of_none hprobed hfit) nofun
  | some p =>
    have hat := homeAt_of_some hprobed hfit
    constructor
    · rintro h _ ⟨⟩
      have hcolumn := h.unique hat
      simp only [homeColumn] at hcolumn
      omega
    · intro h
      rw [h p rfl] at hat
      exact hat

end ScanEntry

open ScanEntry

/-- The report has a line for each entry, in order. If the texts fit their columns, the homes all stand behind
both columns just if each version is as wide as its column. -/
theorem scan_homes_aligned_iff {entries : List ScanEntry} (hne : entries ≠ [])
    (hfit : ∀ e ∈ entries, e.Fits) :
    scan entries .text = "Java installations:\n" ++ String.join (entries.map ScanEntry.text) ∧
    ((∀ e ∈ entries, e.HomeAt homeColumn) ↔
      ∀ e ∈ entries, ∀ p, e.probed = some p → p.version.text.length = 12) ∧
    ∀ e ∈ entries, (e.probed = none → e.HomeAt homeColumn) ∧
      ∀ p, e.probed = some p → e.HomeAt (2 + (24 + 1) + (p.version.text.length + 1)) := by
  refine ⟨if_neg hne, forall₂_congr fun e he => homeAt_homeColumn_iff (hfit e he), fun e he => ?_⟩
  exact ⟨fun h => homeAt_of_none h (hfit e he), fun p h => homeAt_of_some h (hfit e he)⟩

/-- Versions that fill their column, and an error. -/
theorem scan_homes_aligned_iff_full :
    let p : Probed := {
      version := ⟨"11.0.25+9-ea", 11, some 0, some 25⟩, vendor := "Eclipse Temurin", isJdk := true }
    let entries : List ScanEntry :=
      [⟨⟨"/opt/jdk"⟩, some p, none⟩, ⟨⟨"/opt/broken"⟩, none, some "broken"⟩]
    entries ≠ [] ∧ (∀ e ∈ entries, e.Fits) ∧ ∀ e ∈ entries, e.HomeAt homeColumn := by
  intro p entries
  have hne : entries ≠ [] := List.cons_ne_nil _ _
  have hprobed : Fits ⟨⟨"/opt/jdk"⟩, some p, none⟩ := ⟨by decide, by decide⟩
  have hbroken : Fits ⟨⟨"/opt/broken"⟩, none, some "broken"⟩ := ⟨by decide, by decide⟩
  have hfit : ∀ e ∈ entries, e.Fits := by simp [entries, hprobed, hbroken]
  refine ⟨hne, hfit, (scan_homes_aligned_iff hne hfit).2.1.mpr fun e he p' hp' => ?_⟩
  have hversion : p.version.text.length = 12 := by decide
  rcases List.mem_cons.mp he with rfl | he
  · cases hp'
    exact hversion
  · obtain rfl := List.mem_singleton.mp he
    cases hp'

/-- A version of six characters pulls its home six places to the left. -/
theorem scan_homes_not_aligned :
    let p : Probed := {
      version := ⟨"17.0.2", 17, some 0, some 2⟩, vendor := "Eclipse Temurin", isJdk := true }
    let entries : List ScanEntry :=
      [⟨⟨"/opt/jdk"⟩, some p, none⟩, ⟨⟨"/opt/broken"⟩, none, some "broken"⟩]
    (∀ e ∈ entries, e.Fits) ∧ (∃ e ∈ entries, e.HomeAt 34) ∧ (∃ e ∈ entries, e.HomeAt 40) ∧
      ¬ ∀ e ∈ entries, e.HomeAt homeColumn := by
  intro p entries
  have hprobed : Fits ⟨⟨"/opt/jdk"⟩, some p, none⟩ := ⟨by decide, by decide⟩
  have hbroken : Fits ⟨⟨"/opt/broken"⟩, none, some "broken"⟩ := ⟨by decide, by decide⟩
  have hfit : ∀ e ∈ entries, e.Fits := by simp [entries, hprobed, hbroken]
  have hversion : p.version.text.length = 6 := by decide
  have hat := homeAt_of_some (p := p) rfl hprobed
  rw [hversion] at hat
  refine ⟨hfit, ⟨_, List.mem_cons_self, hat⟩,
    ⟨_, List.mem_cons_of_mem _ List.mem_cons_self, homeAt_of_none rfl hbroken⟩, fun h => ?_⟩
  have hcolumn := (h _ List.mem_cons_self).unique hat
  exact absurd hcolumn (by decide)

end Report

end BuildJdk
