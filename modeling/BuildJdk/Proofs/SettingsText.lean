import BuildJdk.Probe.Settings
import BuildJdk.Proofs.LineText
import BuildJdk.Proofs.Trimming

/-!
# What a report of settings says

A line of a report binds a key to a value if the key stands first, behind an indentation, and the text ` = `
follows it at once. The value is the rest of the line without the blanks at its end; it may begin with blanks,
have ` = ` in it, or be empty. Any other line is passed over: a report comes with headings, continued values and
what else the launcher has to say.

Main statement: a key has the value of the last line that binds it, and settings that are written one a line, with
any other lines among them, are read as written but for the blanks at the end of a value.
-/

namespace BuildJdk.Settings

open Text

/-! ## The grammar -/

/-- An ASCII letter or digit, an underscore or a dot. -/
def IsKeyChar (c : Char) : Prop :=
  ('A' ≤ c ∧ c ≤ 'Z') ∨ ('a' ≤ c ∧ c ≤ 'z') ∨ ('0' ≤ c ∧ c ≤ '9') ∨ c = '_' ∨ c = '.'

/-- Some characters, all of them key characters. -/
def IsKey (key : List Char) : Prop := key ≠ [] ∧ ∀ c ∈ key, IsKeyChar c

/-- The key behind an indentation, and the rest of the line after ` = `. -/
def Assigns (line key rest : List Char) : Prop :=
  ∃ indent, (∀ c ∈ indent, isBlank c = true) ∧ line = indent ++ (key ++ ' ' :: '=' :: ' ' :: rest)

/-- The line binds the key to the value. -/
structure Binds (line : List Char) (key value : String) : Prop where
  isKey : IsKey key.toList
  exists_rest : ∃ rest, Assigns line key.toList rest ∧ Front isBlank rest value.toList

/-- The line is written from the key and the value, with any indentation. -/
structure Writes (key value : String) (line : List Char) : Prop where
  isKey : IsKey key.toList
  assigns : Assigns line key.toList value.toList

/-! ## Keys -/

variable {key value : String} {line k rest : List Char}

theorem isKeyChar_iff {c : Char} : isKeyChar c = true ↔ IsKeyChar c := by
  have hclass : c.isAlphanum = (decide ('A' ≤ c ∧ c ≤ 'Z') || (decide ('a' ≤ c) && decide (c ≤ 'z')) ||
      (decide ('0' ≤ c) && decide (c ≤ '9'))) := rfl
  simp [isKeyChar, IsKeyChar, hclass, or_assoc]

theorem not_isBlank_of_isKeyChar {c : Char} (hc : IsKeyChar c) : isBlank c = false := by
  rcases hc with ⟨hlow, hhigh⟩ | ⟨hlow, hhigh⟩ | ⟨hlow, hhigh⟩ | rfl | rfl
  · exact not_isBlank_of_between (by decide) (by decide) hlow hhigh
  · exact not_isBlank_of_between (by decide) (by decide) hlow hhigh
  · exact not_isBlank_of_between (by decide) (by decide) hlow hhigh
  · decide
  · decide

/-! ## Lines -/

/-- A line that assigns falls into its parts at the first other character of each class. -/
theorem Assigns.split (h : Assigns line k rest) (hkey : IsKey k) :
    (dropStart isBlank line).takeWhile isKeyChar = k ∧
      (dropStart isBlank line).dropWhile isKeyChar = ' ' :: '=' :: ' ' :: rest := by
  obtain ⟨indent, hindent, rfl⟩ := h
  have hhead : ∀ c, (k ++ ' ' :: '=' :: ' ' :: rest).head? = some c → isBlank c = false := by
    intro c hc
    obtain ⟨d, k', rfl⟩ := List.exists_cons_of_ne_nil hkey.1
    obtain rfl := Option.some.inj hc
    exact not_isBlank_of_isKeyChar (hkey.2 d List.mem_cons_self)
  have hchars : ∀ c ∈ k, isKeyChar c = true := fun c hc => isKeyChar_iff.mpr (hkey.2 c hc)
  have hstop : ∀ c, (' ' :: '=' :: ' ' :: rest).head? = some c → isKeyChar c = false := by
    rintro _ ⟨⟩
    decide
  rw [dropStart, dropWhile_append_stop hindent hhead]
  exact ⟨takeWhile_append_stop hchars hstop, dropWhile_append_stop hchars hstop⟩

theorem line?_eq_some_iff : line? line = some (key, value) ↔ Binds line key value := by
  unfold line?
  dsimp only
  constructor
  · intro h
    split at h
    · next rest hrest =>
      split at h
      · cases h
      · next hne =>
        obtain ⟨rfl, rfl⟩ := Prod.mk.inj (Option.some.inj h)
        have hkey : IsKey ((dropStart isBlank line).takeWhile isKeyChar) :=
          ⟨hne, fun c hc => isKeyChar_iff.mp (of_mem_takeWhile hc)⟩
        have hassigns : Assigns line ((dropStart isBlank line).takeWhile isKeyChar) rest := by
          refine ⟨line.takeWhile isBlank, fun c => of_mem_takeWhile, ?_⟩
          rw [← hrest, List.takeWhile_append_dropWhile, dropStart, List.takeWhile_append_dropWhile]
        exact ⟨by simpa using hkey, rest, by simpa using hassigns, by simpa using front_dropFinal isBlank rest⟩
    · cases h
  · rintro ⟨hkey, rest, hassigns, hfront⟩
    obtain ⟨hfirst, hrest⟩ := hassigns.split hkey
    rw [hfirst, hrest]
    simp [hkey.1, ← front_iff.mp hfront]

/-- A character other than a space at the end of a line belongs to the rest of it. -/
theorem assigns_concat_iff {c : Char} (hc : c ≠ ' ') :
    Assigns (line ++ [c]) k rest ↔ ∃ rest', rest = rest' ++ [c] ∧ Assigns line k rest' := by
  constructor
  · rintro ⟨indent, hindent, heq⟩
    rcases List.eq_nil_or_concat rest with rfl | ⟨rest', d, rfl⟩
    · have hlast := congrArg List.getLast? heq
      simp at hlast
      exact absurd hlast hc
    · rw [List.concat_eq_append] at heq ⊢
      have hsplit : line ++ [c] = indent ++ (k ++ ' ' :: '=' :: ' ' :: rest') ++ [d] := by
        rw [heq]
        simp
      obtain ⟨hline, rfl⟩ := List.append_singleton_inj.mp hsplit
      exact ⟨rest', rfl, indent, hindent, hline⟩
  · rintro ⟨rest', rfl, indent, hindent, rfl⟩
    exact ⟨indent, hindent, by simp⟩

theorem binds_return_iff : Binds (line ++ ['\r']) key value ↔ Binds line key value := by
  have hfront : ∀ rest, Front isBlank (rest ++ ['\r']) value.toList ↔ Front isBlank rest value.toList := by
    intro rest
    rw [front_iff, front_iff, dropFinal_concat (by decide)]
  constructor
  · rintro ⟨hkey, rest, hassigns, htrim⟩
    obtain ⟨rest', rfl, hassigns'⟩ := (assigns_concat_iff (by decide)).mp hassigns
    exact ⟨hkey, rest', hassigns', (hfront rest').mp htrim⟩
  · rintro ⟨hkey, rest, hassigns, htrim⟩
    exact ⟨hkey, rest ++ ['\r'], (assigns_concat_iff (by decide)).mpr ⟨rest, rfl, hassigns⟩,
      (hfront rest).mpr htrim⟩

theorem line?_return (line : List Char) : line? (line ++ ['\r']) = line? line := by
  apply Option.ext
  rintro ⟨key, value⟩
  rw [line?_eq_some_iff, binds_return_iff, line?_eq_some_iff]

/-- The text without the blanks at its end. -/
def trimFinal (s : String) : String := String.ofList (dropFinal isBlank s.toList)

theorem trimFinal_eq_iff {s t : String} : trimFinal s = t ↔ Front isBlank s.toList t.toList := by
  rw [front_iff, trimFinal]
  constructor
  · rintro rfl
    exact String.toList_ofList
  · intro h
    rw [← h, String.ofList_toList]

/-- A written line binds what it was written from, but for the blanks at the end. -/
theorem Writes.binds (h : Writes key value line) : Binds line key (trimFinal value) :=
  ⟨h.isKey, value.toList, h.assigns, trimFinal_eq_iff.mp rfl⟩

/-! ## Reports -/

/-- A key is bound to a value just if a line binds it to that value and no later line binds it. Of settings that
are written one a line, with any lines that bind nothing among them, each key has its last value, without the
blanks at the end of it. -/
theorem report_binds_last :
    (∀ report key value, (parse report).get? key = some value ↔
      ∃ before line after, report.toList.splitOn '\n' = before ++ line :: after ∧
        Binds line key value ∧ ∀ later ∈ after, ∀ value', ¬ Binds later key value') ∧
    ∀ entries ls, Listing Binds Writes entries ls → ∀ key value,
      (parse (joinLines ls)).get? key = some value ↔
        ∃ before written after, entries = before ++ (key, written) :: after ∧ (∀ e ∈ after, e.1 ≠ key) ∧
          Front isBlank written.toList value.toList := by
  constructor
  · intro report key value
    unfold parse
    rw [filterMap_lines rfl line?_return, get?_filterMap_iff]
    simp only [ne_eq, line?_eq_some_iff]
  · intro entries ls h key value
    -- the other lines bind nothing, and each value loses the blanks at its end
    have hread : parse (joinLines ls) = entries.map fun e => (e.1, trimFinal e.2) := by
      unfold parse
      rw [filterMap_lines_joinLines rfl line?_return h.feed_not_mem,
        h.filterMap_eq line?_eq_some_iff fun hline => line?_eq_some_iff.mpr hline.binds]
    rw [hread, Bindings.get?_map, Option.map_eq_some_iff]
    simp only [Bindings.get?_eq_some_iff, trimFinal_eq_iff]
    constructor
    · rintro ⟨written, ⟨before, after, hentries, hafter⟩, htrim⟩
      exact ⟨before, written, after, hentries, hafter, htrim⟩
    · rintro ⟨before, written, after, hentries, hafter, htrim⟩
      exact ⟨written, ⟨before, after, hentries, hafter⟩, htrim⟩

/-- A heading, a setting with ` = ` in its value, and one that is set twice, the second time among blanks. -/
theorem report_binds_last_repeated :
    let entries := [("java.version", "11"), ("user.note", "a = b"), ("java.version", "  17 ")]
    let ls := ["Property settings:".toList, "    java.version = 11".toList, "\tuser.note = a = b".toList,
      "java.version =   17 ".toList]
    Listing Binds Writes entries ls ∧ (parse (joinLines ls)).get? "java.version" = some "  17" := by
  intro entries ls
  have hkey : ∀ k : List Char, k ≠ [] → k.all isKeyChar = true → IsKey k := by
    intro k hne hall
    exact ⟨hne, fun c hc => isKeyChar_iff.mp (List.all_eq_true.mp hall c hc)⟩
  have hindent : ∀ c ∈ "    ".toList, isBlank c = true := List.all_eq_true.mp (by decide)
  have htab : ∀ c ∈ ['\t'], isBlank c = true := List.all_eq_true.mp (by decide)
  have hheading : ∀ key value, ¬ Binds "Property settings:".toList key value := by
    intro key value hbinds
    have hnone : line? "Property settings:".toList = none := by decide
    rw [line?_eq_some_iff.mpr hbinds] at hnone
    cases hnone
  have hversion := hkey "java.version".toList (by decide) (by decide)
  have hnote := hkey "user.note".toList (by decide) (by decide)
  have hlisting : Listing Binds Writes entries ls := by
    refine .other (by decide) hheading ?_
    refine .entry (by decide) ⟨hversion, "    ".toList, hindent, by decide⟩ ?_
    refine .entry (by decide) ⟨hnote, ['\t'], htab, by decide⟩ ?_
    exact .entry (by decide) ⟨hversion, [], nofun, by decide⟩ .nil
  have htrim : Front isBlank "  17 ".toList "  17".toList := trimFinal_eq_iff.mp (by decide)
  exact ⟨hlisting, (report_binds_last.2 entries ls hlisting _ _).mpr
    ⟨[("java.version", "11"), ("user.note", "a = b")], "  17 ", [], rfl, nofun, htrim⟩⟩

end BuildJdk.Settings
