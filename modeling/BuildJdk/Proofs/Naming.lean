import BuildJdk.Proofs.Vendor

/-!
# Names of implementations are canonical

The name of an implementation names itself: put in place of the vendor it gives the same name again. It is never
empty and has no blanks around it, whatever text the vendor is. Two ways to write a vendor that differ in blanks
around it, or in the case of letters, are told apart only if no rule knows the vendor, which then keeps its own
name.
-/

namespace BuildJdk

/-! ## Trimmed texts -/

namespace Text

theorem trim_trim (s : String) : trim (trim s) = trim s := by
  have hinside := inside_dropEnds isBlank s.toList
  have hself := inside_self hinside.head_not hinside.last_not
  unfold trim trimBlanks
  rw [String.toList_ofList, ← inside_iff.mp hself]

theorem trim_append_blanks {s front back : String} (hfront : isAllBlank front = true)
    (hback : isAllBlank back = true) : trim (front ++ s ++ back) = trim s := by
  have hwide := (inside_dropEnds isBlank s.toList).widen (List.all_eq_true.mp hfront)
    (List.all_eq_true.mp hback)
  unfold trim trimBlanks
  rw [String.toList_append, String.toList_append, ← inside_iff.mp hwide]

/-! ## Letter case -/

variable {s t : String}

/-- The texts differ in the case of ASCII letters only. -/
def SameLetters (s t : String) : Prop := s.toList.map Char.toLower = t.toList.map Char.toLower

theorem isBlank_toLower (c : Char) : isBlank c.toLower = isBlank c := by
  by_cases hc : 'A' ≤ c ∧ c ≤ 'Z'
  · have hlower := toNat_toLower hc
    have hn : 65 ≤ c.toNat ∧ c.toNat ≤ 90 := hc
    have hlow : 'a' ≤ c.toLower := show 97 ≤ c.toLower.toNat by omega
    have hhigh : c.toLower ≤ 'z' := show c.toLower.toNat ≤ 122 by omega
    rw [not_isBlank_of_between (by decide) (by decide) hlow hhigh,
      not_isBlank_of_between (by decide) (by decide) hc.1 hc.2]
  · rw [toLower_of_not_capital hc]

theorem SameLetters.containsAnyCase_eq (h : SameLetters s t) (word : String) :
    containsAnyCase s word = containsAnyCase t word := by
  unfold containsAnyCase
  rw [← lower_map_toLower, h, lower_map_toLower]

theorem SameLetters.isAllBlank_eq (h : SameLetters s t) : isAllBlank s = isAllBlank t := by
  have hall : ∀ u : List Char, (u.map Char.toLower).all isBlank = u.all isBlank := by
    intro u
    rw [List.all_map]
    exact congrArg u.all (funext isBlank_toLower)
  unfold isAllBlank
  rw [← hall, h, hall]

end Text

namespace Vendor

open Text

/-! ## The names that are given -/

/-- The names that the rules give, but for Oracle's own builds. -/
def givenNames (isJdk : Bool) : List String :=
  "OpenJDK" :: ("Unknown " ++ kindName isJdk) :: known.map fun entry => title entry.2.1 entry.2.2 isJdk

/-- The given names are known by the rules that give them. -/
theorem of_mem_givenNames : ∀ isJdk, ∀ name ∈ givenNames isJdk, isOracle name = false ∧
    implementationName name none isJdk = name ∧ name ≠ "" ∧ trim name = name := by
  decide +kernel

/-- Oracle's own builds are named after it, and are known by that. -/
theorem oracle_name : ∀ isJdk, isOracle ("Oracle " ++ kindName isJdk) = true ∧
    "Oracle " ++ kindName isJdk ≠ "" ∧ trim ("Oracle " ++ kindName isJdk) = "Oracle " ++ kindName isJdk := by
  decide +kernel

variable {vendor name : String} {runtime : Option String} {isJdk : Bool}

/-- A name is given by a rule, or it is the vendor's own. -/
theorem Named.cases (h : Named vendor runtime isJdk name) : name ∈ givenNames isJdk ∨
    (runtime.any (contains · "OpenJDK") = false ∧ name = "Oracle " ++ kindName isJdk) ∨
    isAllBlank vendor = false ∧ name = trim vendor := by
  cases h with
  | openJdk => exact .inl (by simp [givenNames])
  | oracle _ hr => exact .inr (.inl ⟨hr, rfl⟩)
  | known _ hk =>
    obtain ⟨entry, hentry, rfl⟩ := exists_of_knownName? hk
    exact .inl (List.mem_cons_of_mem _ (List.mem_cons_of_mem _ (List.mem_map.mpr ⟨entry, hentry, rfl⟩)))
  | unknown => exact .inl (by simp [givenNames])
  | own _ _ hb => exact .inr (.inr ⟨hb, rfl⟩)

/-- Naming the name gives it again. -/
theorem Named.implementationName_eq (h : Named vendor runtime isJdk name) :
    implementationName name runtime isJdk = name := by
  rcases h.cases with hgiven | ⟨hr, rfl⟩ | ⟨-, rfl⟩
  · obtain ⟨horacle, hself, -⟩ := of_mem_givenNames isJdk name hgiven
    rw [implementationName_of_not_oracle horacle, hself]
  · exact (Named.oracle (oracle_name isJdk).1 hr).eq
  · rw [implementationName_congr (trim_trim vendor), h.eq]

/-- A name is some text without blanks around it. -/
theorem Named.trim_eq (h : Named vendor runtime isJdk name) : name ≠ "" ∧ trim name = name := by
  rcases h.cases with hgiven | ⟨-, rfl⟩ | ⟨hb, rfl⟩
  · exact (of_mem_givenNames isJdk name hgiven).2.2
  · exact (oracle_name isJdk).2
  · refine ⟨fun hempty => ?_, trim_trim vendor⟩
    rw [isAllBlank_iff.mpr hempty] at hb
    cases hb

theorem Named.isOracle_iff (h : Named vendor runtime isJdk name) : isOracle name = true ↔
    isOracle vendor = true ∧ runtime.any (contains · "OpenJDK") = false := by
  constructor
  · intro ho
    rw [← h.eq] at ho
    obtain ⟨hv, hr, -⟩ := of_isOracle_implementationName ho
    exact ⟨hv, hr⟩
  · rintro ⟨hv, hr⟩
    rw [← h.eq, (Named.oracle hv hr).eq]
    exact (oracle_name isJdk).1

/-! ## Vendors that differ in letter case -/

theorem knownName?_of_sameLetters {vendor' : String} (h : SameLetters vendor vendor') :
    knownName? vendor isJdk = knownName? vendor' isJdk := by
  unfold knownName?
  rw [funext h.containsAnyCase_eq]

/-- The rules do not look at letter case: they name two such vendors alike, or leave both their own names. -/
theorem Named.of_sameLetters {vendor' : String} (h : SameLetters vendor vendor')
    (hnamed : Named vendor runtime isJdk name) :
    Named vendor' runtime isJdk name ∨ name = trim vendor ∧ Named vendor' runtime isJdk (trim vendor') := by
  have horacle : isOracle vendor = isOracle vendor' := h.containsAnyCase_eq "oracle"
  have hknown : knownName? vendor isJdk = knownName? vendor' isJdk := knownName?_of_sameLetters h
  have hblank := h.isAllBlank_eq
  cases hnamed with
  | openJdk hv hr => exact .inl (.openJdk (horacle ▸ hv) hr)
  | oracle hv hr => exact .inl (.oracle (horacle ▸ hv) hr)
  | known hv hk => exact .inl (.known (horacle ▸ hv) (hknown ▸ hk))
  | unknown hv hk hb => exact .inl (.unknown (horacle ▸ hv) (hknown ▸ hk) (hblank ▸ hb))
  | own hv hk hb => exact .inr ⟨rfl, .own (horacle ▸ hv) (hknown ▸ hk) (hblank ▸ hb)⟩

/-! ## All vendors -/

/-- The name of an implementation names itself, and is some text without blanks around it. It depends on the
runtime only if the vendor mentions Oracle, and mentions Oracle itself just if the runtime is not OpenJDK besides.
Blanks around the vendor have no part in it, and letter case has one only if the vendor keeps its own name. -/
theorem implementationName_canonical (vendor : String) (runtime : Option String) (isJdk : Bool) :
    let name := implementationName vendor runtime isJdk
    implementationName name runtime isJdk = name ∧ (name ≠ "" ∧ trim name = name) ∧
      (¬ Mentions vendor "oracle" → ∀ runtime', implementationName vendor runtime' isJdk = name) ∧
      (Mentions name "oracle" ↔ Mentions vendor "oracle" ∧
        ∀ r, runtime = some r → ¬ "OpenJDK".toList <:+: r.toList) ∧
      (∀ front back, isAllBlank front = true → isAllBlank back = true →
        implementationName (front ++ vendor ++ back) runtime isJdk = name) ∧
      ∀ vendor', SameLetters vendor vendor' → implementationName vendor' runtime isJdk = name ∨
        name = trim vendor ∧ implementationName vendor' runtime isJdk = trim vendor' := by
  intro name
  have hnamed : Named vendor runtime isJdk name := named_implementationName vendor runtime isJdk
  refine ⟨hnamed.implementationName_eq, hnamed.trim_eq, ?_, ?_, ?_, ?_⟩
  · intro hno runtime'
    have hfalse : isOracle vendor = false := Bool.eq_false_iff.mpr fun ho => hno (isOracle_iff.mp ho)
    rw [implementationName_of_not_oracle hfalse]
    exact (implementationName_of_not_oracle hfalse runtime isJdk).symm
  · rw [← isOracle_iff, hnamed.isOracle_iff, isOracle_iff, any_contains_eq_false_iff]
  · intro front back hfront hback
    exact implementationName_congr (trim_append_blanks hfront hback) runtime isJdk
  · intro vendor' hletters
    rcases hnamed.of_sameLetters hletters with hsame | ⟨hown, hown'⟩
    · exact .inl hsame.eq
    · exact .inr ⟨hown, hown'.eq⟩

/-- A vendor that no rule knows, among blanks and in another letter case. -/
theorem implementationName_canonical_acme :
    ¬ Mentions "ACME" "oracle" ∧ implementationName "ACME" (some "OpenJDK") true = "ACME" ∧
      implementationName ("\t" ++ "ACME" ++ " ") none true = "ACME" ∧ SameLetters "ACME" "Acme" ∧
      (implementationName "Acme" none true = "ACME" ∨
        "ACME" = trim "ACME" ∧ implementationName "Acme" none true = trim "Acme") := by
  have hname : implementationName "ACME" none true = "ACME" := by decide +kernel
  have hno : ¬ Mentions "ACME" "oracle" := by
    rw [← isOracle_iff]
    decide +kernel
  have hletters : SameLetters "ACME" "Acme" := by
    unfold SameLetters
    decide
  obtain ⟨-, -, hruntime, -, hblanks, hcase⟩ := implementationName_canonical "ACME" none true
  rw [hname] at hruntime hblanks hcase
  exact ⟨hno, hruntime hno _, hblanks "\t" " " (by decide) (by decide), hletters, hcase "Acme" hletters⟩

end Vendor

end BuildJdk
