import BuildJdk.Probe.Release
import BuildJdk.Proofs.LineText
import BuildJdk.Proofs.Trimming

/-!
# What a release file says

A line of a release file binds a key to a value if it has one of four forms: the value stands in quotes, has a
quote at one end only, or has none. A value has no quote of its own, so the forms never disagree on the key and
the value of a line. Any other line is passed over.

Main statement: a key has the value of the last line that binds it, and a file written as `KEY="VALUE"` lines,
with any other lines among them, is read as its entries.
-/

namespace BuildJdk.Release

open Text

/-! ## The grammar -/

/-- A capital or an underscore. -/
def IsKeyStart (c : Char) : Prop := ('A' ≤ c ∧ c ≤ 'Z') ∨ c = '_'

/-- A capital or an underscore, and then capitals, underscores and digits. -/
def IsKey : List Char → Prop
  | [] => False
  | c :: rest => IsKeyStart c ∧ ∀ d ∈ rest, IsKeyStart d ∨ ('0' ≤ d ∧ d ≤ '9')

/-- The forms of a value: with a quote at both ends, at one end, or without. -/
inductive Quoted (value : List Char) : List Char → Prop
  | both : Quoted value ('"' :: value ++ ['"'])
  | opening : Quoted value ('"' :: value)
  | closing : Quoted value (value ++ ['"'])
  | bare : Quoted value value

/-- The line, without the blanks around it, binds the key to the value. -/
structure Binds (line : List Char) (key value : String) : Prop where
  isKey : IsKey key.toList
  quote_not_mem : '"' ∉ value.toList
  exists_form : ∃ form, Quoted value.toList form ∧ Inside isBlank line (key.toList ++ '=' :: form)

/-- The line is written from the key and the value as `KEY="VALUE"`, with any blanks around. -/
structure Writes (key value : String) (line : List Char) : Prop where
  isKey : IsKey key.toList
  quote_not_mem : '"' ∉ value.toList
  exists_margins : ∃ front back, (∀ c ∈ front, isBlank c = true) ∧ (∀ c ∈ back, isBlank c = true) ∧
    line = front ++ (key.toList ++ '=' :: ('"' :: value.toList ++ ['"'])) ++ back

/-! ## Keys -/

variable {key value : String} {line k s v : List Char}

theorem isKeyStart_iff {c : Char} : isKeyStart c = true ↔ IsKeyStart c := decide_eq_true_iff

theorem isKey_iff : isKey k = true ↔ IsKey k := by
  cases k with
  | nil => exact iff_of_false nofun id
  | cons c rest =>
    have hdigit : ∀ d : Char, d.isDigit = true ↔ '0' ≤ d ∧ d ≤ '9' := by
      intro d
      simp [Char.isDigit, Char.le_def]
    simp only [isKey, IsKey, isKeyChar, Bool.and_eq_true, List.all_eq_true, Bool.or_eq_true,
      isKeyStart_iff, hdigit]

/-- No key is empty. -/
theorem IsKey.ne_nil (h : IsKey k) : k ≠ [] := by
  rintro rfl
  exact h

/-- Keys are made of visible characters other than the equals sign. -/
theorem IsKey.visible (h : IsKey k) : ∀ c ∈ k, isBlank c = false ∧ c ≠ '=' := by
  have hvisible : ∀ c, IsKeyStart c ∨ ('0' ≤ c ∧ c ≤ '9') → isBlank c = false ∧ c ≠ '=' := by
    rintro c ((⟨hlow, hhigh⟩ | rfl) | ⟨hlow, hhigh⟩)
    · refine ⟨not_isBlank_of_between (by decide) (by decide) hlow hhigh, ?_⟩
      rintro rfl
      exact absurd hlow (by decide)
    · decide
    · refine ⟨not_isBlank_of_between (by decide) (by decide) hlow hhigh, ?_⟩
      rintro rfl
      exact absurd hhigh (by decide)
  cases k with
  | nil => exact nofun
  | cons c rest =>
    exact List.forall_mem_cons.mpr ⟨hvisible c (.inl h.1), fun d hd => hvisible d (h.2 d hd)⟩

/-! ## Values -/

/-- A text without quotes keeps its front. -/
theorem dropQuote_of_not_mem (h : '"' ∉ v) : dropQuote v = v := by
  unfold dropQuote
  split
  · simp at h
  · rfl

/-- The text without a quote at its end. -/
def dropFinalQuote (s : List Char) : List Char := if s.getLast? = some '"' then s.dropLast else s

theorem dropFinalQuote_of_not_mem (h : '"' ∉ v) : dropFinalQuote v = v :=
  if_neg fun hlast => h (List.mem_of_mem_getLast? hlast)

/-- Of several quotes at the end one is dropped. -/
theorem dropFinalQuote_concat (v : List Char) : dropFinalQuote (v ++ ['"']) = v := by
  rw [dropFinalQuote, if_pos List.getLast?_concat, List.dropLast_concat]

theorem dropFinalQuote_cases (s : List Char) :
    ∃ t, dropFinalQuote s = t ∧ (s = t ∨ s = t ++ ['"']) := by
  by_cases hlast : s.getLast? = some '"'
  · obtain ⟨t, rfl⟩ := List.getLast?_eq_some_iff.mp hlast
    exact ⟨t, dropFinalQuote_concat t, .inr rfl⟩
  · exact ⟨s, if_neg hlast, .inl rfl⟩

/-- A value is the text without a quote at each of its ends. -/
theorem quoted_dropQuotes (s : List Char) : Quoted (dropFinalQuote (dropQuote s)) s := by
  unfold dropQuote
  split
  · next rest =>
    obtain ⟨t, ht, rfl | rfl⟩ := dropFinalQuote_cases rest
    · rw [ht]
      exact .opening
    · rw [ht]
      exact .both
  · obtain ⟨t, ht, rfl | rfl⟩ := dropFinalQuote_cases s
    · rw [ht]
      exact .bare
    · rw [ht]
      exact .closing

/-- A value is read if no quote is left in it. -/
theorem value?_eq_some_iff : value? s = some v ↔ '"' ∉ v ∧ Quoted v s := by
  have hvalue : value? s = if (dropFinalQuote (dropQuote s)).contains '"' then none
      else some (dropFinalQuote (dropQuote s)) := rfl
  rw [hvalue]
  constructor
  · intro h
    split at h
    · cases h
    · next hquote =>
      obtain rfl := Option.some.inj h
      exact ⟨by simpa using hquote, quoted_dropQuotes s⟩
  · rintro ⟨hquote, hform⟩
    have hdrop : dropFinalQuote (dropQuote s) = v := by
      cases hform with
      | both => exact dropFinalQuote_concat v
      | opening => exact dropFinalQuote_of_not_mem hquote
      | closing =>
        cases v with
        | nil => rfl
        | cons c v =>
          -- the front is no quote, so it is kept
          have hc : c ≠ '"' := fun hc => hquote (by simp [hc])
          have hfront : dropQuote (c :: v ++ ['"']) = c :: v ++ ['"'] := by
            unfold dropQuote
            split
            · next heq => exact absurd (List.cons.inj heq).1 hc
            · rfl
          rw [hfront, dropFinalQuote_concat]
      | bare => rw [dropQuote_of_not_mem hquote, dropFinalQuote_of_not_mem hquote]
    rw [hdrop, if_neg (by simpa using hquote)]

/-! ## Lines -/

/-- A line is read as the binding that it makes. -/
theorem line?_eq_some_iff : line? line = some (key, value) ↔ Binds line key value := by
  unfold line?
  dsimp only
  constructor
  · intro h
    generalize ht : trimBlanks line = t at h
    have hsplit : t.takeWhile (· ≠ '=') ++ t.dropWhile (· ≠ '=') = t := List.takeWhile_append_dropWhile
    split at h
    · cases h
    · next c rest hrest =>
      have hc : c = '=' := by
        have hstop := of_head?_dropWhile (p := (· ≠ '=')) (s := t) (c := c) (by rw [hrest]; rfl)
        simpa using hstop
      subst hc
      split at h
      · next hkey =>
        obtain ⟨v, hv, hpair⟩ := Option.map_eq_some_iff.mp h
        obtain ⟨rfl, rfl⟩ := Prod.mk.inj hpair
        obtain ⟨hquote, hform⟩ := value?_eq_some_iff.mp hv
        refine ⟨by simpa using isKey_iff.mp hkey, by simpa using hquote, rest, by simpa using hform, ?_⟩
        rw [inside_iff, String.toList_ofList, ← hrest, hsplit]
        exact ht.symm
      · cases h
  · rintro ⟨hkey, hquote, form, hform, hinside⟩
    -- no key has an equals sign, so the line is cut behind the key
    have hequals : '=' ∉ key.toList := fun hc => (hkey.visible _ hc).2 rfl
    rw [trimBlanks, ← inside_iff.mp hinside, takeWhile_ne_append hequals, dropWhile_ne_append hequals]
    dsimp only
    rw [if_pos (isKey_iff.mpr hkey), value?_eq_some_iff.mpr ⟨hquote, hform⟩]
    simp

/-- A carriage return at the end of a line makes no difference. -/
theorem line?_return (line : List Char) : line? (line ++ ['\r']) = line? line := by
  have htrim : trimBlanks (line ++ ['\r']) = trimBlanks line := by
    have hreturn : ∀ c ∈ ['\r'], isBlank c = true := List.all_eq_true.mp (by decide)
    have hwide := (inside_dropEnds isBlank line).widen (u := []) nofun hreturn
    exact (inside_iff.mp hwide).symm
  unfold line?
  rw [htrim]

/-- A written line binds what it was written from. -/
theorem Writes.binds (h : Writes key value line) : Binds line key value := by
  obtain ⟨hkey, hquote, front, back, hfront, hback, rfl⟩ := h
  refine ⟨hkey, hquote, _, .both, (inside_self ?_ ?_).widen hfront hback⟩
  · intro c hc
    obtain ⟨d, rest, hlist⟩ := List.exists_cons_of_ne_nil hkey.ne_nil
    rw [hlist] at hc
    obtain rfl := Option.some.inj hc
    exact (hkey.visible d (by simp [hlist])).1
  · intro c hc
    have hlist : key.toList ++ '=' :: ('"' :: value.toList ++ ['"'])
        = key.toList ++ '=' :: '"' :: value.toList ++ ['"'] := by simp
    rw [hlist, List.getLast?_concat] at hc
    obtain rfl := Option.some.inj hc
    decide

/-! ## Files -/

/-- A key is bound to a value just if a line binds it to that value and no later line binds it. What is written
as `KEY="VALUE"` lines, with any lines that bind nothing among them, is read as written: each key has its last
value. -/
theorem release_binds_last :
    (∀ content key value, (parse content).get? key = some value ↔
      ∃ before line after, content.toList.splitOn '\n' = before ++ line :: after ∧
        Binds line key value ∧ ∀ later ∈ after, ∀ value', ¬ Binds later key value') ∧
    ∀ entries ls, Listing Binds Writes entries ls → ∀ key value,
      (parse (joinLines ls)).get? key = some value ↔
        ∃ before after, entries = before ++ (key, value) :: after ∧ ∀ e ∈ after, e.1 ≠ key := by
  constructor
  · intro content key value
    unfold parse
    rw [filterMap_lines rfl line?_return, get?_filterMap_iff]
    simp only [ne_eq, line?_eq_some_iff]
  · intro entries ls h key value
    have hread : parse (joinLines ls) = entries := by
      unfold parse
      rw [filterMap_lines_joinLines rfl line?_return h.feed_not_mem,
        h.filterMap_eq line?_eq_some_iff fun hline => line?_eq_some_iff.mpr hline.binds]
      simp
    rw [hread, Bindings.get?_eq_some_iff]

/-- A line that ends with a carriage return, a note, and a later value that is spaced within its quotes. -/
theorem release_binds_last_repeated :
    let entries := [("JAVA_VERSION", "11"), ("JAVA_VERSION", " 17 ")]
    let ls := ["JAVA_VERSION=\"11\"\r".toList, "# JAVA_VERSION=\"9\"".toList,
      "JAVA_VERSION=\" 17 \"".toList]
    Listing Binds Writes entries ls ∧ (parse (joinLines ls)).get? "JAVA_VERSION" = some " 17 " := by
  intro entries ls
  have hkey : IsKey "JAVA_VERSION".toList := isKey_iff.mp (by decide)
  have hlisting : Listing Binds Writes entries ls := by
    have hreturn : ∀ c ∈ ['\r'], isBlank c = true := List.all_eq_true.mp (by decide)
    refine .entry (by decide) ⟨hkey, by decide, [], ['\r'], nofun, hreturn, by decide⟩
      (.other (by decide) ?_ (.entry (by decide) ⟨hkey, by decide, [], [], nofun, nofun, by decide⟩ .nil))
    intro key value hbinds
    have hnone : line? "# JAVA_VERSION=\"9\"".toList = none := by decide
    rw [line?_eq_some_iff.mpr hbinds] at hnone
    cases hnone
  exact ⟨hlisting, (release_binds_last.2 entries ls hlisting _ _).mpr
    ⟨[("JAVA_VERSION", "11")], [], rfl, nofun⟩⟩

end BuildJdk.Release
