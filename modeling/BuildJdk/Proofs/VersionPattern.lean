import BuildJdk.Proofs.VersionText

/-!
# The pattern of version texts

A version text is matched with `^(?:1\.)?(\d+)(?:\.(\d+))?(?:\.(\d+))?`. A matcher tries the ways to match a
pattern in turn, the greedy ones first, and takes the first one that leads to the end of the pattern. The
`1.` in front overlaps with the major number, so here it has to go back now and then.

Main statement: reading a version text gives what is captured that way, without ever going back.
-/

namespace BuildJdk.Version

open Text

/-- A pattern. -/
inductive Pattern where
  | char (c : Char)
  /-- A run of digits, captured in a group. -/
  | digits (group : Nat)
  | optional (p : Pattern)
  | seq (p q : Pattern)

namespace Pattern

/-- What is left of a match: the captured groups and the rest of the text. -/
structure Found where
  groups : List (Nat × List Char)
  rest : List Char
  deriving DecidableEq, Repr

/-- The ways to match a pattern with the front of a text, the preferred ones first. -/
def ways : Pattern → List Char → List Found
  | char _, [] => []
  | char c, d :: s => if d = c then [⟨[], s⟩] else []
  | digits group, s =>
    (List.range (leadingRun s).length).reverse.map fun k => ⟨[(group, s.take (k + 1))], s.drop (k + 1)⟩
  | optional p, s => p.ways s ++ [⟨[], s⟩]
  | seq p q, s =>
    (p.ways s).flatMap fun f => (q.ways f.rest).map fun g => ⟨f.groups ++ g.groups, g.rest⟩

/-- The match that is taken. -/
def first? (p : Pattern) (s : List Char) : Option Found := (p.ways s).head?

/-- A dot and digits that may follow a number. -/
def part (group : Nat) : Pattern := optional (seq (char '.') (digits group))

/-- The numbers of a version. -/
def numbers : Pattern := seq (digits 1) (seq (part 2) (part 3))

/-- The pattern of version texts. -/
def version : Pattern := seq (optional (seq (char '1') (char '.'))) numbers

/-! ## The first match -/

variable {p q : Pattern} {s : List Char} {f : Found}

/-- Of a sequence the first match is the first one of its second part, for the first match of its first part
that has any. -/
theorem first?_seq (p q : Pattern) (s : List Char) : (seq p q).first? s =
    (p.ways s).findSome? fun f =>
      (q.first? f.rest).map fun g => ⟨f.groups ++ g.groups, g.rest⟩ := by
  unfold first?
  rw [ways, List.head?_flatMap]
  simp only [List.head?_map]

/-- Patterns match one after the other, where the first of them stops. -/
theorem first?_seq_of_first? {g : Found} (hp : p.first? s = some f) (hq : q.first? f.rest = some g) :
    (seq p q).first? s = some ⟨f.groups ++ g.groups, g.rest⟩ := by
  obtain ⟨more, hways⟩ := List.head?_eq_some_iff.mp hp
  rw [first?_seq, hways, List.findSome?_cons, hq]
  rfl

/-- Digits do not match where there is none. -/
theorem first?_digits_of_nil (hrun : leadingRun s = []) (group : Nat) :
    (digits group).first? s = none := by
  unfold first?
  rw [ways, hrun]
  rfl

/-- The longest run is preferred. -/
theorem first?_digits (hrun : leadingRun s ≠ []) (group : Nat) :
    (digits group).first? s = some ⟨[(group, leadingRun s)], afterRun s⟩ := by
  obtain ⟨n, hn⟩ : ∃ n, (leadingRun s).length = n + 1 :=
    Nat.exists_eq_add_one.mpr (List.length_pos_iff.mpr hrun)
  have hsplit : leadingRun s ++ afterRun s = s := List.takeWhile_append_dropWhile
  have htake : s.take (n + 1) = leadingRun s :=
    calc s.take (n + 1) = (leadingRun s ++ afterRun s).take (leadingRun s).length := by
          rw [hsplit, hn]
      _ = leadingRun s := List.take_left
  have hdrop : s.drop (n + 1) = afterRun s :=
    calc s.drop (n + 1) = (leadingRun s ++ afterRun s).drop (leadingRun s).length := by
          rw [hsplit, hn]
      _ = afterRun s := List.drop_left
  unfold first?
  rw [ways, hn, List.range_succ, List.reverse_append]
  simp [htake, hdrop]

theorem first?_char_seq (c : Char) (q : Pattern) (s : List Char) :
    (seq (char c) q).first? s = match s with
      | [] => none
      | d :: u => if d = c then q.first? u else none := by
  rw [first?_seq]
  cases s with
  | nil => rfl
  | cons d u =>
    by_cases hd : d = c
    · simp [ways, hd]
    · simp [ways, hd]

theorem first?_optional (p : Pattern) (s : List Char) :
    (optional p).first? s = some ((p.first? s).getD ⟨[], s⟩) := by
  unfold first?
  rw [ways, List.head?_append]
  cases (p.ways s).head? <;> rfl

/-- A matcher goes back to do without an optional part only if nothing matches with it. -/
theorem first?_optional_seq (p q : Pattern) (s : List Char) :
    (seq (optional p) q).first? s = ((seq p q).first? s).or (q.first? s) := by
  rw [first?_seq, first?_seq, ways, List.findSome?_append]
  simp

/-! ## The numbers -/

/-- There is no run where no digit comes first. -/
theorem leadingRun_eq_nil_iff : leadingRun s = [] ↔ ∀ d u, s = d :: u → isDigit d = false := by
  cases s with
  | nil => simp [leadingRun]
  | cons d u => simp [leadingRun, List.takeWhile_cons]

theorem first?_dot_digits (group : Nat) (s : List Char) :
    (seq (char '.') (digits group)).first? s
      = (afterDot? s).map fun u => ⟨[(group, leadingRun u)], afterRun u⟩ := by
  rw [first?_char_seq]
  cases hdot : afterDot? s with
  | some u =>
    obtain ⟨d, u, rfl, rfl, hd⟩ := exists_of_afterDot? hdot
    exact first?_digits (run_of_isDigit hd u).ne_nil group
  | none =>
    cases s with
    | nil => rfl
    | cons c u =>
      by_cases hc : c = '.'
      · subst hc
        refine first?_digits_of_nil (leadingRun_eq_nil_iff.mpr ?_) group
        rintro d u rfl
        exact noPart_iff.mpr hdot d u rfl
      · exact if_neg hc

/-- A part matches a dot with digits behind it, or nothing. -/
theorem first?_part (group : Nat) (s : List Char) : (part group).first? s =
    some (((afterDot? s).map fun u => ⟨[(group, leadingRun u)], afterRun u⟩).getD ⟨[], s⟩) := by
  rw [part, first?_optional, first?_dot_digits]

/-- The groups after the major number. -/
theorem exists_first?_parts (rest : List Char) : ∃ f, (seq (part 2) (part 3)).first? rest = some f ∧
    f.groups.lookup 2 = minorRun? rest ∧ f.groups.lookup 3 = patchRun? rest := by
  have hminor := first?_part 2 rest
  unfold minorRun? patchRun?
  cases hdot : afterDot? rest with
  | none =>
    rw [hdot] at hminor
    have hpatch := first?_part 3 rest
    rw [hdot] at hpatch
    exact ⟨_, first?_seq_of_first? hminor hpatch, rfl, rfl⟩
  | some u =>
    rw [hdot] at hminor
    have hpatch := first?_part 3 (afterRun u)
    refine ⟨_, first?_seq_of_first? hminor hpatch, rfl, ?_⟩
    simp only [Option.map_some, Option.bind_some]
    cases afterDot? (afterRun u) <;> rfl

theorem first?_numbers_of_nil (hrun : leadingRun s = []) : numbers.first? s = none := by
  rw [numbers, first?_seq, ways, hrun]
  rfl

/-- The groups of the numbers are the runs that the reader takes. -/
theorem exists_first?_numbers (hrun : leadingRun s ≠ []) : ∃ f, numbers.first? s = some f ∧
    f.groups.lookup 1 = some (leadingRun s) ∧ f.groups.lookup 2 = minorRun? (afterRun s) ∧
    f.groups.lookup 3 = patchRun? (afterRun s) := by
  obtain ⟨f, hparts, hminor, hpatch⟩ := exists_first?_parts (afterRun s)
  exact ⟨_, first?_seq_of_first? (first?_digits hrun 1) hparts, rfl, hminor, hpatch⟩

/-! ## The front -/

theorem first?_legacy (s : List Char) : (seq (seq (char '1') (char '.')) numbers).first? s =
    match s with
    | '1' :: '.' :: u => numbers.first? u
    | _ => none := by
  rw [first?_seq]
  split
  · next u => simp [ways]
  · next hno =>
    rcases s with _ | ⟨c, _ | ⟨d, u⟩⟩
    · rfl
    · simp [ways]
    · by_cases hc : c = '1'
      · have hd : d ≠ '.' := by
          rintro rfl
          exact hno u (by rw [hc])
        simp [ways, hc, hd]
      · simp [ways, hc]

/-- The `1.` in front is gone back over unless a digit follows it. -/
theorem first?_version (t : List Char) : version.first? t = numbers.first? (afterLegacyOne t) := by
  rw [version, first?_optional_seq, first?_legacy]
  have hstart : StartsAt t (afterLegacyOne t) := startsAt_iff.mpr rfl
  generalize afterLegacyOne t = b at hstart
  cases hstart with
  | @legacy d rest hd =>
    obtain ⟨f, hf, -⟩ := exists_first?_numbers (run_of_isDigit hd rest).ne_nil
    simp only [hf, Option.some_or]
  | front hno =>
    split
    · next u =>
      have hnone : numbers.first? u = none := by
        refine first?_numbers_of_nil (leadingRun_eq_nil_iff.mpr ?_)
        rintro d rest rfl
        exact hno d rest rfl
      rw [hnone, Option.none_or]
    · exact Option.none_or

end Pattern

/-- A version text is read as the pattern captures it. -/
theorem parse?_eq_first? (s : String) : parse? s =
    (Pattern.version.first? (bareText s.toList)).bind fun f =>
      match (f.groups.lookup 1).bind wordValue? with
      | none | some 0 => none
      | some major => some {
          text := String.ofList (bareText s.toList)
          major
          minor := (f.groups.lookup 2).bind wordValue?
          patch := (f.groups.lookup 3).bind wordValue? } := by
  rw [Pattern.first?_version]
  -- without a first run of digits neither of them finds a version
  by_cases hrun : leadingRun (fromMajor s) = []
  · have hnone : wordValue? (leadingRun (fromMajor s)) = none := by rw [hrun, wordValue?_nil]
    rw [parse?_eq_none (.inl hnone), show Pattern.numbers.first? (afterLegacyOne _) = none from
      Pattern.first?_numbers_of_nil hrun]
    rfl
  · obtain ⟨f, hf, hmajor, hminor, hpatch⟩ := Pattern.exists_first?_numbers hrun
    rw [show Pattern.numbers.first? (afterLegacyOne _) = some f from hf, Option.bind_some, hmajor,
      hminor, hpatch, Option.bind_some]
    cases hvalue : wordValue? (leadingRun (fromMajor s)) with
    | none => rw [parse?_eq_none (.inl hvalue)]
    | some major =>
      cases major with
      | zero =>
        rw [parse?_eq_none (.inr hvalue)]
        rfl
      | succ n => exact parse?_eq (by omega) hvalue

end BuildJdk.Version
