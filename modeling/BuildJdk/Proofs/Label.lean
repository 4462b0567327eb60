import BuildJdk.Probe.Basic
import BuildJdk.Proofs.Decimal

/-!
# What a label tells

A label is a vendor, a space and a number in decimal digits. Digits have no space among them, so it is the
last space that divides a label: the vendor and the number can be told from it, whatever text the vendor is.
-/

namespace BuildJdk

theorem space_not_mem_repr (n : Nat) : ' ' ∉ n.repr.toList := not_mem_repr rfl n

/-- A part without spaces ends where the whole ends, unless the space before it belongs to the other's last
part. -/
theorem eq_or_exists_of_space {a b a' b' : List Char} (hb : ' ' ∉ b)
    (h : a ++ ' ' :: b = a' ++ ' ' :: b') :
    (a = a' ∧ b = b') ∨ ∃ rest, a = a' ++ ' ' :: rest ∧ b' = rest ++ ' ' :: b := by
  rcases List.append_eq_append_iff.mp h with ⟨rest, hfront, hback⟩ | ⟨rest, hfront, hback⟩
  · cases rest with
    | nil =>
      rw [List.append_nil] at hfront
      exact .inl ⟨hfront.symm, (List.cons.inj hback).2⟩
    | cons c rest =>
      rw [(List.cons.inj hback).2] at hb
      simp at hb
  · cases rest with
    | nil =>
      rw [List.append_nil] at hfront
      exact .inl ⟨hfront, (List.cons.inj hback).2.symm⟩
    | cons c rest =>
      obtain ⟨rfl, hrest⟩ := List.cons.inj hback
      exact .inr ⟨rest, hfront, hrest⟩

/-- A label is one of a vendor and a number just if these are the vendor and the number of it. -/
theorem labelText_eq_iff {vendor vendor' : String} {major major' : Nat} :
    labelText vendor major = labelText vendor' major' ↔ vendor = vendor' ∧ major = major' := by
  constructor
  · intro h
    have hlist : vendor.toList ++ ' ' :: major.repr.toList
        = vendor'.toList ++ ' ' :: major'.repr.toList := by
      simpa [labelText] using congrArg String.toList h
    rcases eq_or_exists_of_space (space_not_mem_repr major) hlist with
      ⟨hvendor, hmajor⟩ | ⟨rest, -, hmajor⟩
    · exact ⟨String.toList_inj.mp hvendor, eq_of_repr_eq (String.toList_inj.mp hmajor)⟩
    · -- the other number would have a space
      have hspace := space_not_mem_repr major'
      rw [hmajor] at hspace
      simp at hspace
  · rintro ⟨rfl, rfl⟩
    rfl

end BuildJdk
