import Mathlib.Data.List.Forall2
import BuildJdk.Proofs.JsonText
import BuildJdk.Report.Scan

/-!
# What the report on a scan tells

The report in JSON has an object for each home. Two parts of it may be missing, each on its own: what the
probe told, whose members stand among the others, and the error. So it is the keys of an object that tell
which of the two there are.

Main statement: the report is one document that tells of every home all that is known, and different scans have
different reports.
-/

namespace BuildJdk

namespace Json

theorem nat_inj {m n : Nat} (h : nat m = nat n) : m = n := eq_of_repr_eq (number.inj h)

theorem ofOption_nat_inj {m n : Option Nat} (h : ofOption nat m = ofOption nat n) : m = n := by
  cases m with
  | none => cases n with
    | none => rfl
    | some n => cases h
  | some m => cases n with
    | none => cases h
    | some n => rw [nat_inj h]

/-- The keys of an object are some of these names, in their order. -/
def KeysAmong (names : List String) (j : Json) : Prop := (j.members.map Prod.fst).Sublist names

end Json

namespace Report

open Json (KeysAmong)

/-! ## What an object tells -/

/-- An object tells a version. -/
structure TellsVersion (j : Json) (v : Version) : Prop where
  keys : KeysAmong ["version", "major", "minor", "patch"] j
  text : j.get? "version" = some (.string v.text)
  major : j.get? "major" = some (.nat v.major)
  minor : j.get? "minor" = some (.ofOption .nat v.minor)
  patch : j.get? "patch" = some (.ofOption .nat v.patch)

/-- An object tells a home, what the probe told about it if anything, and the error if there was one. -/
structure TellsEntry (j : Json) (e : ScanEntry) : Prop where
  keys : KeysAmong ["java_home", "version", "vendor", "is_jdk", "error"] j
  home : j.get? "java_home" = some (.string e.home.text)
  version : Option.Rel TellsVersion (j.get? "version") (e.probed.map Probed.version)
  vendor : j.get? "vendor" = (e.probed.map Probed.vendor).map .string
  isJdk : j.get? "is_jdk" = (e.probed.map Probed.isJdk).map .boolean
  error : j.get? "error" = e.error.map .string

/-- An object tells one version at most. -/
theorem TellsVersion.unique {j : Json} {v w : Version} (hv : TellsVersion j v)
    (hw : TellsVersion j w) : v = w := by
  have htext := Json.string.inj (Option.some.inj (hv.text.symm.trans hw.text))
  have hmajor := Json.nat_inj (Option.some.inj (hv.major.symm.trans hw.major))
  have hminor := Json.ofOption_nat_inj (Option.some.inj (hv.minor.symm.trans hw.minor))
  have hpatch := Json.ofOption_nat_inj (Option.some.inj (hv.patch.symm.trans hw.patch))
  obtain ⟨text, major, minor, patch⟩ := v
  obtain ⟨text', major', minor', patch'⟩ := w
  obtain rfl : text = text' := htext
  obtain rfl : major = major' := hmajor
  obtain rfl : minor = minor' := hminor
  obtain rfl : patch = patch' := hpatch
  rfl

/-- A member tells one version at most, or that there is none. -/
theorem version?_unique {found : Option Json} {v w : Option Version}
    (hv : Option.Rel TellsVersion found v) (hw : Option.Rel TellsVersion found w) : v = w := by
  cases hv with
  | none =>
    cases hw
    rfl
  | some hv => cases hw with
    | some hw => rw [hv.unique hw]

theorem probed_eq {p q : Option Probed} (hversion : p.map Probed.version = q.map Probed.version)
    (hvendor : p.map Probed.vendor = q.map Probed.vendor)
    (hisJdk : p.map Probed.isJdk = q.map Probed.isJdk) : p = q := by
  cases p with
  | none => cases q with
    | none => rfl
    | some q => cases hversion
  | some p => cases q with
    | none => cases hversion
    | some q =>
      obtain ⟨version, vendor, isJdk⟩ := p
      obtain ⟨version', vendor', isJdk'⟩ := q
      obtain rfl : version = version' := Option.some.inj hversion
      obtain rfl : vendor = vendor' := Option.some.inj hvendor
      obtain rfl : isJdk = isJdk' := Option.some.inj hisJdk
      rfl

/-- An object tells one entry at most. -/
theorem rightUnique_tellsEntry : Relator.RightUnique TellsEntry := by
  intro j d e hd he
  have hhome := Json.string.inj (Option.some.inj (hd.home.symm.trans he.home))
  have hvendor := Option.map_injective (fun _ _ => Json.string.inj) (hd.vendor.symm.trans he.vendor)
  have hisJdk := Option.map_injective (fun _ _ => Json.boolean.inj) (hd.isJdk.symm.trans he.isJdk)
  have herror := Option.map_injective (fun _ _ => Json.string.inj) (hd.error.symm.trans he.error)
  have hprobed := probed_eq (version?_unique hd.version he.version) hvendor hisJdk
  obtain ⟨⟨home⟩, probed, error⟩ := d
  obtain ⟨⟨home'⟩, probed', error'⟩ := e
  obtain rfl : home = home' := hhome
  obtain rfl : probed = probed' := hprobed
  obtain rfl : error = error' := herror
  rfl

/-! ## What the report writes -/

/-- The JSON of a version tells it. -/
theorem tellsVersion_toJson (v : Version) : TellsVersion v.toJson v where
  keys := List.Sublist.refl _
  text := rfl
  major := rfl
  minor := rfl
  patch := rfl

theorem ScanEntry.keysAmong_toJson (e : ScanEntry) :
    KeysAmong ["java_home", "version", "vendor", "is_jdk", "error"] e.toJson := by
  have hprobed : ((probedMembers e.probed).map Prod.fst).Sublist ["version", "vendor", "is_jdk"] := by
    cases e.probed with
    | none => exact List.nil_sublist _
    | some p => exact List.Sublist.refl _
  have herror : ((errorMembers e.error).map Prod.fst).Sublist ["error"] := by
    cases e.error with
    | none => exact List.nil_sublist _
    | some error => exact List.Sublist.refl _
  have hrest := hprobed.append herror
  rw [← List.map_append] at hrest
  exact hrest.cons_cons "java_home"

/-- The JSON of an entry tells it. -/
theorem tellsEntry_toJson (e : ScanEntry) : TellsEntry e.toJson e := by
  have hkeys := e.keysAmong_toJson
  obtain ⟨home, probed, error⟩ := e
  cases probed with
  | none => cases error <;> exact ⟨hkeys, rfl, .none, rfl, rfl, rfl⟩
  | some p =>
    cases error <;> exact ⟨hkeys, rfl, .some (tellsVersion_toJson p.version), rfl, rfl, rfl⟩

theorem within_ofOption_nat (n : Option Nat) : Json.Within 1 (.ofOption .nat n) := by
  cases n with
  | none => exact .null
  | some n => exact .nat

theorem within_version (v : Version) : Json.Within 2 v.toJson := by
  refine .object fun m hm => ?_
  simp only [List.mem_cons, List.not_mem_nil, or_false] at hm
  rcases hm with rfl | rfl | rfl | rfl
  · exact .string
  · exact .nat
  · exact within_ofOption_nat v.minor
  · exact within_ofOption_nat v.patch

theorem ScanEntry.within_toJson (e : ScanEntry) : Json.Within 3 e.toJson := by
  refine .object fun m hm => ?_
  rcases List.mem_append.mp hm with hm | hm
  · rcases List.mem_cons.mp hm with rfl | hm
    · exact .string
    · cases hp : e.probed with
      | none =>
        rw [hp] at hm
        cases hm
      | some p =>
        rw [hp] at hm
        simp only [probedMembers, List.mem_cons, List.not_mem_nil, or_false] at hm
        rcases hm with rfl | rfl | rfl
        · exact within_version p.version
        · exact .string
        · exact .boolean
  · cases he : e.error with
    | none =>
      rw [he] at hm
      cases hm
    | some error =>
      rw [he] at hm
      obtain rfl := List.mem_singleton.mp hm
      exact .string

/-- The report of a scan is nested four deep at most. -/
theorem within_scan (entries : List ScanEntry) :
    Json.Within 4 (.array (entries.map ScanEntry.toJson)) := by
  refine .array fun item hitem => ?_
  obtain ⟨e, -, rfl⟩ := List.mem_map.mp hitem
  exact e.within_toJson

theorem forall₂_tellsEntry (entries : List ScanEntry) :
    List.Forall₂ TellsEntry (entries.map ScanEntry.toJson) entries := by
  rw [List.forall₂_map_left_iff, List.forall₂_same]
  exact fun e _ => tellsEntry_toJson e

/-- Two scans with the same report are read back as the same array, which tells both. -/
theorem eq_of_scan_json_eq {entries others : List ScanEntry}
    (h : scan entries .json = scan others .json) : entries = others := by
  have hread : some (Json.array (entries.map ScanEntry.toJson))
      = some (Json.array (others.map ScanEntry.toJson)) := by
    rw [← Json.parse?_document (within_scan entries), ← Json.parse?_document (within_scan others)]
    exact congrArg Json.parse? h
  have hitems := Json.array.inj (Option.some.inj hread)
  have htells := forall₂_tellsEntry entries
  rw [hitems] at htells
  exact rightUnique_tellsEntry.forall₂ htells (forall₂_tellsEntry others)

/-- The report on a scan in JSON is one JSON text and a line feed. The text writes an array whose objects tell
the entries in their order. Reports are the same just if they are on the same entries. -/
theorem scan_json_tells_all (entries : List ScanEntry) :
    (∃ text items, scan entries .json = text ++ "\n" ∧ Json.parse? text = some (.array items) ∧
      List.Forall₂ TellsEntry items entries) ∧
    ∀ others, scan entries .json = scan others .json ↔ entries = others := by
  refine ⟨⟨_, _, rfl, ?_, forall₂_tellsEntry entries⟩, fun others => ⟨eq_of_scan_json_eq, ?_⟩⟩
  · have hblanks : ∀ c ∈ ([] : List Char), Json.isSpace c = true := nofun
    have hread := Json.parse?_write Json.Layout.isBlank_indented (within_scan entries) hblanks
    rwa [List.append_nil] at hread
  · rintro rfl
    rfl

/-- A home that was probed and one that was not, under names that need to be escaped. -/
theorem scan_json_tells_all_escaped :
    let p : Probed := { version := ⟨"1.8.0\u00e9", 8, some 0, none⟩, vendor := "\"A\\", isJdk := false }
    let entries : List ScanEntry := [⟨⟨"/opt/\t\u4e2d"⟩, some p, none⟩, ⟨⟨"/b"⟩, none, some "\n\x01"⟩]
    (∃ text items, scan entries .json = text ++ "\n" ∧ Json.parse? text = some (.array items) ∧
      List.Forall₂ TellsEntry items entries) ∧
    scan entries .json ≠ scan [⟨⟨"/opt/\t\u4e2d"⟩, some p, none⟩, ⟨⟨"/b"⟩, none, none⟩] .json := by
  intro p entries
  have htells := scan_json_tells_all entries
  refine ⟨htells.1, fun h => ?_⟩
  have hentries := (htells.2 _).mp h
  revert hentries
  decide

end Report

end BuildJdk
