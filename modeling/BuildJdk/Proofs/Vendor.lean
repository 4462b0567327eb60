import Mathlib.Data.List.Find
import BuildJdk.Proofs.Words

/-!
# The names of implementations

Only one rule gives a name that mentions Oracle: it needs a vendor that does, and a runtime that is not
named as one of OpenJDK. The rules for all other vendors look neither at the runtime nor at the blanks
around the vendor.
-/

namespace BuildJdk.Vendor

open Text

/-- Oracle's vendors are those that mention it in any letter case. -/
theorem isOracle_iff {vendor : String} : isOracle vendor = true ↔ Mentions vendor "oracle" :=
  containsAnyCase_iff (by decide)

theorem isOracle_trim (vendor : String) : isOracle (trim vendor) = isOracle vendor :=
  containsAnyCase_trim (by decide) vendor

/-! ## Known vendors -/

/-- What the implementation of a known vendor is called. -/
def title (name : String) (byKind isJdk : Bool) : String :=
  if byKind then name ++ " " ++ kindName isJdk else name

/-- No known vendor has a title that mentions Oracle. -/
theorem isOracle_of_mem_known :
    ∀ entry ∈ known, ∀ isJdk, isOracle (title entry.2.1 entry.2.2 isJdk) = false := by
  decide +kernel

theorem isSolid_of_mem_known :
    ∀ entry ∈ known, ∀ word ∈ entry.1, isSolid word.toList = true := by
  decide +kernel

/-- A known name is the title of a known vendor. -/
theorem exists_of_knownName? {vendor name : String} {isJdk : Bool}
    (h : knownName? vendor isJdk = some name) :
    ∃ entry ∈ known, title entry.2.1 entry.2.2 isJdk = name := by
  unfold knownName? at h
  split at h
  · next hfind => exact ⟨_, List.mem_of_find?_eq_some hfind, Option.some.inj h⟩
  · next hfind => exact ⟨_, List.mem_of_find?_eq_some hfind, Option.some.inj h⟩
  · cases h

theorem isOracle_knownName? {vendor name : String} {isJdk : Bool}
    (h : knownName? vendor isJdk = some name) : isOracle name = false := by
  obtain ⟨entry, hentry, rfl⟩ := exists_of_knownName? h
  exact isOracle_of_mem_known entry hentry isJdk

/-- Blanks around a vendor do not matter. -/
theorem knownName?_trim (vendor : String) (isJdk : Bool) :
    knownName? (trim vendor) isJdk = knownName? vendor isJdk := by
  have hany : ∀ entry ∈ known, entry.1.any (containsAnyCase (trim vendor))
      = entry.1.any (containsAnyCase vendor) := by
    intro entry hentry
    rw [Bool.eq_iff_iff, List.any_eq_true, List.any_eq_true]
    refine exists_congr fun word => and_congr_right fun hword => ?_
    rw [containsAnyCase_trim (isSolid_of_mem_known entry hentry word hword)]
  unfold knownName?
  rw [List.find?_congr hany]

/-! ## All vendors -/

/-- There is no runtime whose name contains the word. -/
theorem any_contains_eq_false_iff {runtime : Option String} {word : String} :
    runtime.any (contains · word) = false ↔
      ∀ name, runtime = some name → ¬ word.toList <:+: name.toList := by
  cases runtime with
  | none => simp
  | some name => simp [← contains_iff]

/-- The rules by which an implementation is named. -/
inductive Named (vendor : String) (runtime : Option String) (isJdk : Bool) : String → Prop
  | openJdk : isOracle vendor = true → runtime.any (contains · "OpenJDK") = true →
      Named vendor runtime isJdk "OpenJDK"
  | oracle : isOracle vendor = true → runtime.any (contains · "OpenJDK") = false →
      Named vendor runtime isJdk ("Oracle " ++ kindName isJdk)
  | known {name : String} : isOracle vendor = false → knownName? vendor isJdk = some name →
      Named vendor runtime isJdk name
  | unknown : isOracle vendor = false → knownName? vendor isJdk = none → isAllBlank vendor = true →
      Named vendor runtime isJdk ("Unknown " ++ kindName isJdk)
  | own : isOracle vendor = false → knownName? vendor isJdk = none → isAllBlank vendor = false →
      Named vendor runtime isJdk (trim vendor)

/-- The name that is given is one of those that are described. -/
theorem named_implementationName (vendor : String) (runtime : Option String) (isJdk : Bool) :
    Named vendor runtime isJdk (implementationName vendor runtime isJdk) := by
  unfold implementationName
  cases hv : isOracle vendor with
  | true =>
    rw [if_pos rfl]
    cases hr : runtime.any (contains · "OpenJDK") with
    | true => exact .openJdk hv hr
    | false => exact .oracle hv hr
  | false =>
    rw [if_neg (by simp)]
    cases hk : knownName? vendor isJdk with
    | some name => exact .known hv hk
    | none =>
      cases hb : isAllBlank vendor with
      | true => exact .unknown hv hk hb
      | false => exact .own hv hk hb

/-- Only one name is described. -/
theorem Named.eq {vendor name : String} {runtime : Option String} {isJdk : Bool}
    (h : Named vendor runtime isJdk name) : implementationName vendor runtime isJdk = name := by
  unfold implementationName
  cases h with
  | openJdk hv hr => rw [if_pos hv, if_pos hr]
  | oracle hv hr => rw [if_pos hv, if_neg (by simp [hr])]
  | known hv hk => rw [if_neg (by simp [hv]), hk]
  | unknown hv hk hb => rw [if_neg (by simp [hv]), hk, hb]; rfl
  | own hv hk hb => rw [if_neg (by simp [hv]), hk, hb]; rfl

/-- The runtime matters for Oracle only. -/
theorem implementationName_of_not_oracle {vendor : String} (h : isOracle vendor = false)
    (runtime : Option String) (isJdk : Bool) :
    implementationName vendor runtime isJdk = implementationName vendor none isJdk := by
  unfold implementationName
  simp [h]

/-- The blanks around a vendor do not matter. -/
theorem implementationName_congr {vendor vendor' : String} (h : trim vendor = trim vendor')
    (runtime : Option String) (isJdk : Bool) :
    implementationName vendor runtime isJdk = implementationName vendor' runtime isJdk := by
  have horacle : isOracle vendor = isOracle vendor' := by
    rw [← isOracle_trim vendor, h, isOracle_trim]
  have hknown : knownName? vendor isJdk = knownName? vendor' isJdk := by
    rw [← knownName?_trim vendor, h, knownName?_trim]
  have hblank : isAllBlank vendor = isAllBlank vendor' := by
    rw [Bool.eq_iff_iff, isAllBlank_iff, isAllBlank_iff, h]
  unfold implementationName
  rw [horacle, hknown, hblank, h]

/-- A name that mentions Oracle is given by the one rule for Oracle's own builds. -/
theorem of_isOracle_implementationName {vendor : String} {runtime : Option String} {isJdk : Bool}
    (h : isOracle (implementationName vendor runtime isJdk) = true) :
    isOracle vendor = true ∧ runtime.any (contains · "OpenJDK") = false ∧
      implementationName vendor runtime isJdk = "Oracle " ++ kindName isJdk := by
  have hnamed := named_implementationName vendor runtime isJdk
  generalize implementationName vendor runtime isJdk = name at h hnamed ⊢
  cases hnamed with
  | openJdk => exact absurd h (by decide +kernel)
  | oracle hv hr => exact ⟨hv, hr, rfl⟩
  | known _ hk => exact absurd h (by simp [isOracle_knownName? hk])
  | unknown =>
    have hname : ∀ b, isOracle ("Unknown " ++ kindName b) = false := by decide +kernel
    exact absurd h (by simp [hname])
  | own hv => exact absurd h (by simp [isOracle_trim, hv])

end BuildJdk.Vendor
