import BuildJdk.Bindings
import BuildJdk.Text.Lines

/-!
# Bindings read from lines

Release files and reports of settings are read line by line: some lines bind a key to a value, the others are
passed over, and the last line that binds a key counts. Here is what that means for any way to read a line, as
long as the end of the line makes no difference to it: a line may then be taken as what stands between two line
feeds.
-/

namespace BuildJdk

namespace Bindings

variable {b : Bindings} {key value : String}

/-- The last binding of a key counts. -/
theorem get?_eq_some_iff : b.get? key = some value ↔
    ∃ before after, b = before ++ (key, value) :: after ∧ ∀ e ∈ after, e.1 ≠ key := by
  unfold get?
  rw [List.lookup_eq_some_iff]
  constructor
  · rintro ⟨after, before, hsplit, hafter⟩
    refine ⟨before.reverse, after.reverse, by simpa using congrArg List.reverse hsplit, fun e he => ?_⟩
    have hne := hafter e (List.mem_reverse.mp he)
    exact fun h => by simp [h] at hne
  · rintro ⟨before, after, rfl, hafter⟩
    refine ⟨after.reverse, before.reverse, by simp, fun e he => ?_⟩
    have hne := hafter e (List.mem_reverse.mp he)
    simpa using hne.symm

theorem get?_map (f : String → String) :
    get? (b.map fun e => (e.1, f e.2)) key = (b.get? key).map f := by
  unfold get?
  rw [← List.map_reverse]
  induction b.reverse with
  | nil => rfl
  | cons e rest ih =>
    rw [List.map_cons, List.lookup_cons, List.lookup_cons, ih]
    cases key == e.1 <;> rfl

end Bindings

namespace Text

variable {f : List Char → Option (String × String)} {key value : String}

/-! ## Lines as pieces between line feeds -/

theorem filterMap_linesOfPieces (hnil : f [] = none) (hreturn : ∀ line, f (line ++ ['\r']) = f line)
    (pieces : List (List Char)) : (linesOfPieces pieces).filterMap f = pieces.filterMap f := by
  have hdrop : ∀ line, f (dropReturn line) = f line := by
    intro line
    unfold dropReturn
    split
    · next hlast =>
      obtain ⟨front, rfl⟩ := List.getLast?_eq_some_iff.mp hlast
      rw [List.dropLast_concat, hreturn]
    · rfl
  fun_induction linesOfPieces pieces with
  | case1 => rfl
  | case2 => simp [hnil]
  | case3 => rfl
  | case4 line rest _ ih => rw [List.filterMap_cons, List.filterMap_cons, hdrop, ih]

theorem filterMap_lines (hnil : f [] = none) (hreturn : ∀ line, f (line ++ ['\r']) = f line)
    (s : List Char) : (lines s).filterMap f = (s.splitOn '\n').filterMap f :=
  filterMap_linesOfPieces hnil hreturn _

/-! ## The last line that binds a key -/

/-- A key has the value that a line gives it, if no later line gives it any. -/
theorem get?_filterMap_iff {pieces : List (List Char)} :
    Bindings.get? (pieces.filterMap f) key = some value ↔
      ∃ before line after, pieces = before ++ line :: after ∧ f line = some (key, value) ∧
        ∀ later ∈ after, ∀ value', f later ≠ some (key, value') := by
  rw [Bindings.get?_eq_some_iff]
  constructor
  · rintro ⟨bound, bound', hbound, hlater⟩
    obtain ⟨before, rest, rfl, -, hrest⟩ := List.filterMap_eq_append_iff.mp hbound
    obtain ⟨skipped, line, after, rfl, -, hline, rfl⟩ := List.filterMap_eq_cons_iff.mp hrest
    refine ⟨before ++ skipped, line, after, by simp, hline, fun later hmem value' hf => ?_⟩
    exact hlater (key, value') (List.mem_filterMap.mpr ⟨later, hmem, hf⟩) rfl
  · rintro ⟨before, line, after, rfl, hline, hlater⟩
    refine ⟨before.filterMap f, after.filterMap f, by simp [hline], ?_⟩
    rintro ⟨_, value'⟩ he rfl
    obtain ⟨later, hmem, hf⟩ := List.mem_filterMap.mp he
    exact hlater later hmem value' hf

/-! ## Texts that list entries -/

/-- The lines, with a line feed between any two. -/
def joinLines (ls : List (List Char)) : String := String.ofList (['\n'].intercalate ls)

/-- Lines that write entries one after another, with any other lines among them that bind nothing. -/
inductive Listing (binds : List Char → String → String → Prop)
    (writes : String → String → List Char → Prop) : Bindings → List (List Char) → Prop
  | nil : Listing binds writes [] []
  | other {entries : Bindings} {line : List Char} {ls : List (List Char)} : '\n' ∉ line →
      (∀ key value, ¬ binds line key value) → Listing binds writes entries ls →
      Listing binds writes entries (line :: ls)
  | entry {entries : Bindings} {line : List Char} {ls : List (List Char)} {key value : String} :
      '\n' ∉ line → writes key value line → Listing binds writes entries ls →
      Listing binds writes ((key, value) :: entries) (line :: ls)

section

variable {binds : List Char → String → String → Prop} {writes : String → String → List Char → Prop}
  {entries : Bindings} {ls : List (List Char)}

theorem Listing.feed_not_mem (h : Listing binds writes entries ls) : ∀ line ∈ ls, '\n' ∉ line := by
  induction h with
  | nil => exact nofun
  | other hfeed _ _ ih => exact List.forall_mem_cons.mpr ⟨hfeed, ih⟩
  | entry hfeed _ _ ih => exact List.forall_mem_cons.mpr ⟨hfeed, ih⟩

/-- What is read of the lines of a listing: one binding for each entry, in order. -/
theorem Listing.filterMap_eq {read : String → String}
    (hbinds : ∀ {line key value}, f line = some (key, value) ↔ binds line key value)
    (hwrites : ∀ {key value line}, writes key value line → f line = some (key, read value))
    (h : Listing binds writes entries ls) :
    ls.filterMap f = entries.map fun e => (e.1, read e.2) := by
  induction h with
  | nil => rfl
  | @other _ line _ _ hno _ ih =>
    have hnone : f line = none := by
      rw [Option.eq_none_iff_forall_ne_some]
      rintro ⟨key, value⟩ hf
      exact hno key value (hbinds.mp hf)
    rw [List.filterMap_cons_none hnone, ih]
  | entry _ hline _ ih => rw [List.filterMap_cons_some (hwrites hline), ih, List.map_cons]

/-- Joined lines are read as the lines. -/
theorem filterMap_lines_joinLines (hnil : f [] = none) (hreturn : ∀ line, f (line ++ ['\r']) = f line)
    (hls : ∀ line ∈ ls, '\n' ∉ line) : (lines (joinLines ls).toList).filterMap f = ls.filterMap f := by
  rw [filterMap_lines hnil hreturn, joinLines, String.toList_ofList]
  by_cases hempty : ls = []
  · subst hempty
    simp [hnil]
  · rw [List.splitOn_intercalate '\n' hls hempty]

end

end Text

end BuildJdk
