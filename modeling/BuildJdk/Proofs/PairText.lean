import BuildJdk.Proofs.Canonical

/-!
# Texts of properties

A text is read as a property by its first equals sign: the key stands in front of it and the value behind it, both
without the blanks around them. `Gives` says so without a reader. `Spaced` are the texts that spell a key and a
value with any blanks around the two.

Main statement: a text is read as a key and a value just if it gives them, and the texts that are read alike are
those that differ in these blanks only.
-/

namespace BuildJdk.Property

open Text

variable {pair key value : String} {before after : List Char}

/-- A key: some characters, each of them a letter, a number, an underscore, a dot or a hyphen. -/
structure IsKey (key : String) : Prop where
  ne_empty : key ≠ ""
  letters : ∀ c ∈ key.toList, isAlphanumeric c = true ∨ c = '_' ∨ c = '.' ∨ c = '-'

/-- The first equals sign of a text stands between what comes before and what comes after. -/
structure SplitsAt (pair : String) (before after : List Char) : Prop where
  toList_eq : pair.toList = before ++ '=' :: after
  equals_not_mem : '=' ∉ before

/-- What a text gives: a key in front of its first equals sign and a value behind it, within the blanks there. -/
inductive Gives (pair key value : String) : Prop
  | mk {before after : List Char} : SplitsAt pair before after → Inside isBlank before key.toList →
      IsKey key → Inside isBlank after value.toList → Gives pair key value

/-- The texts that spell a key and a value, with blanks around each of them. -/
inductive Spaced (key value : String) : String → Prop
  | mk {a b c d : String} : isAllBlank a = true → isAllBlank b = true → isAllBlank c = true →
      isAllBlank d = true → Spaced key value (a ++ key ++ b ++ "=" ++ c ++ value ++ d)

/-! ## Keys -/

theorem isNameChar_iff {c : Char} :
    isNameChar c = true ↔ isAlphanumeric c = true ∨ c = '_' ∨ c = '.' ∨ c = '-' := by
  simp [isNameChar, or_assoc]

/-- The keys are the names that are accepted. -/
theorem isKey_iff : IsKey key ↔ checkName key = .ok () := by
  rw [checkName_eq_ok_iff]
  simp only [isNameChar_iff]
  exact ⟨fun h => ⟨h.ne_empty, h.letters⟩, fun h => ⟨h.1, h.2⟩⟩

theorem IsKey.equals_not_mem (h : IsKey key) : '=' ∉ key.toList :=
  fun hc => ne_equals_of_isNameChar (isNameChar_iff.mpr (h.letters _ hc)) rfl

/-! ## Reading -/

/-- A text with an equals sign is split at the first one. -/
theorem exists_splitsAt (h : '=' ∈ pair.toList) : ∃ before after, SplitsAt pair before after := by
  obtain ⟨before, after, hsplit, hbefore⟩ := List.eq_append_cons_of_mem h
  exact ⟨before, after, hsplit, hbefore⟩

/-- A pair is read from both sides of the first equals sign, without the blanks around them. -/
theorem parsePair_of_splitsAt (h : SplitsAt pair before after) :
    parsePair pair = (checkName (trim (String.ofList before))).map
      fun () => (trim (String.ofList before), trim (String.ofList after)) := by
  unfold parsePair
  rw [h.toList_eq, dropWhile_ne_append h.equals_not_mem, takeWhile_ne_append h.equals_not_mem]
  dsimp only
  cases checkName (trim (String.ofList before)) <;> rfl

theorem inside_toList_iff {s : List Char} {t : String} :
    Inside isBlank s t.toList ↔ trim (String.ofList s) = t := by
  rw [inside_iff, trim, String.toList_ofList, ← String.toList_inj, String.toList_ofList]
  exact eq_comm

/-- The pair that is read is the one that the text gives. -/
theorem parsePair_eq_ok_iff : parsePair pair = .ok (key, value) ↔ Gives pair key value := by
  constructor
  · intro h
    have hequals : '=' ∈ pair.toList := by
      by_contra hnone
      have hall : pair.toList.dropWhile (fun c => decide (c ≠ '=')) = [] :=
        List.dropWhile_eq_nil_iff.mpr fun c hc => decide_eq_true fun heq => hnone (heq ▸ hc)
      unfold parsePair at h
      rw [hall] at h
      cases h
    obtain ⟨before, after, hsplit⟩ := exists_splitsAt hequals
    rw [parsePair_of_splitsAt hsplit] at h
    cases hname : checkName (trim (String.ofList before)) with
    | error e =>
      rw [hname] at h
      cases h
    | ok =>
      rw [hname] at h
      cases h
      exact .mk hsplit (inside_toList_iff.mpr rfl) (isKey_iff.mpr hname) (inside_toList_iff.mpr rfl)
  · rintro ⟨hsplit, hkey, hname, hvalue⟩
    rw [parsePair_of_splitsAt hsplit, inside_toList_iff.mp hkey, inside_toList_iff.mp hvalue,
      isKey_iff.mp hname]
    rfl

/-! ## Blanks around the key and the value -/

theorem isAllBlank_ofList {s : List Char} (h : ∀ c ∈ s, isBlank c = true) :
    isAllBlank (String.ofList s) = true := by
  rw [isAllBlank, String.toList_ofList]
  exact List.all_eq_true.mpr h

/-- A text that gives a pair is one of its spellings, with blanks around the key and the value. -/
theorem Gives.spaced (h : Gives pair key value) : Spaced key value pair := by
  obtain ⟨⟨hpair, -⟩, hkey, -, hvalue⟩ := h
  obtain ⟨a, b, rfl, ha, hb⟩ := hkey.exists_ends
  obtain ⟨c, d, rfl, hc, hd⟩ := hvalue.exists_ends
  have hspelling : pair = String.ofList a ++ key ++ String.ofList b ++ "=" ++ String.ofList c ++ value
      ++ String.ofList d := by
    rw [← String.toList_inj, hpair]
    simp
  rw [hspelling]
  exact .mk (isAllBlank_ofList ha) (isAllBlank_ofList hb) (isAllBlank_ofList hc) (isAllBlank_ofList hd)

/-- Other blanks around the same key and value make no difference. -/
theorem Gives.of_spaced {other : String} (h : Gives pair key value) (hother : Spaced key value other) :
    Gives other key value := by
  obtain ⟨-, hkey, hname, hvalue⟩ := h
  obtain @⟨a, b, c, d, ha, hb, hc, hd⟩ := hother
  unfold isAllBlank at ha hb hc hd
  rw [List.all_eq_true] at ha hb hc hd
  have hkept : Inside isBlank key.toList key.toList := inside_self hkey.head_not hkey.last_not
  have hkept' : Inside isBlank value.toList value.toList := inside_self hvalue.head_not hvalue.last_not
  refine .mk ⟨?_, ?_⟩ (hkept.widen ha hb) hname (hkept'.widen hc hd)
  · simp
  · have hequals : isBlank '=' = false := by decide
    have hblank : ∀ u : String, (∀ c ∈ u.toList, isBlank c = true) → '=' ∉ u.toList := by
      intro u hu hmem
      rw [hu _ hmem] at hequals
      cases hequals
    simp [hblank a ha, hblank b hb, hname.equals_not_mem]

/-- A text is read as a property just if it has an equals sign, and a key within the blanks in front of the first
one; the value is what is within the blanks behind it. Whatever is read can be written with any blanks around key
and value and is read again, and two texts that are read alike differ in these blanks only. -/
theorem parsePair_reads_spellings :
    (∀ pair, (∃ result, parsePair pair = .ok result) ↔
      ∃ before after key, SplitsAt pair before after ∧ Inside isBlank before key.toList ∧ IsKey key) ∧
    (∀ pair key value, parsePair pair = .ok (key, value) ↔ Gives pair key value) ∧
    (∀ pair key value, parsePair pair = .ok (key, value) →
      ∀ a b c d, isAllBlank a = true → isAllBlank b = true → isAllBlank c = true → isAllBlank d = true →
        parsePair (a ++ key ++ b ++ "=" ++ c ++ value ++ d) = .ok (key, value)) ∧
    ∀ pair pair' key value, parsePair pair = .ok (key, value) → parsePair pair' = .ok (key, value) →
      Spaced key value pair ∧ Spaced key value pair' := by
  refine ⟨fun pair => ?_, fun _ _ _ => parsePair_eq_ok_iff, ?_, ?_⟩
  · constructor
    · rintro ⟨⟨key, value⟩, h⟩
      obtain ⟨hsplit, hkey, hname, -⟩ := parsePair_eq_ok_iff.mp h
      exact ⟨_, _, key, hsplit, hkey, hname⟩
    · rintro ⟨before, after, key, hsplit, hkey, hname⟩
      exact ⟨_, parsePair_eq_ok_iff.mpr (.mk hsplit hkey hname (inside_toList_iff.mpr rfl))⟩
  · intro pair key value h a b c d ha hb hc hd
    exact parsePair_eq_ok_iff.mpr ((parsePair_eq_ok_iff.mp h).of_spaced (.mk ha hb hc hd))
  · intro pair pair' key value h h'
    exact ⟨(parsePair_eq_ok_iff.mp h).spaced, (parsePair_eq_ok_iff.mp h').spaced⟩

/-- A value with an equals sign and a blank in it, among blanks of several kinds. -/
theorem parsePair_reads_spellings_nested :
    parsePair " java9Home\u00A0=\t/opt = 9 \n" = .ok ("java9Home", "/opt = 9") ∧
      parsePair ("\t" ++ "java9Home" ++ "" ++ "=" ++ "\u3000" ++ "/opt = 9" ++ " ")
        = .ok ("java9Home", "/opt = 9") := by
  have hread : parsePair " java9Home\u00A0=\t/opt = 9 \n" = .ok ("java9Home", "/opt = 9") := by
    decide +kernel
  obtain ⟨-, -, hspaced, -⟩ := parsePair_reads_spellings
  exact ⟨hread, hspaced _ _ _ hread _ _ _ _ (by decide) (by decide) (by decide) (by decide)⟩

end BuildJdk.Property
