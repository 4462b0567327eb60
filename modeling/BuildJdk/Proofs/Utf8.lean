import BuildJdk.Text.Utf8

/-!
# Bytes that spell a text

The strict reading takes the bytes of one character after the other. A first byte tells how many bytes
follow, and its range for the second one leaves out what is too long a spelling, half of a surrogate pair, or
beyond the last character.

Main statement: the strict reading of some bytes gives a text just if they are its encoding.
-/

namespace BuildJdk

/-- A list is read item by item from the list that it was made from, if each item is. -/
theorem mapM_eq_some_iff {α β : Type} {f : α → Option β} {g : β → α}
    (h : ∀ a b, f a = some b ↔ a = g b) {as : List α} {bs : List β} :
    as.mapM f = some bs ↔ as = bs.map g := by
  induction as generalizing bs with
  | nil => cases bs <;> simp
  | cons a as ih =>
    have hcons : (a :: as).mapM f = some bs ↔
        ∃ b, f a = some b ∧ ∃ rest, as.mapM f = some rest ∧ b :: rest = bs := by
      rw [List.mapM_cons]
      simp [Option.bind_eq_some_iff]
    rw [hcons]
    constructor
    · rintro ⟨b, hb, rest, hrest, rfl⟩
      rw [List.map_cons, (h a b).mp hb, ih.mp hrest]
    · intro hlist
      cases bs with
      | nil => cases hlist
      | cons b bs =>
        obtain ⟨ha, has⟩ := List.cons.inj hlist
        exact ⟨b, (h a b).mpr ha, bs, ih.mpr has, rfl⟩

namespace Text.Utf8

open String (utf8EncodeChar)

/-! ## The bytes after the first one -/

/-- Bytes that go on with a character, the next of which lies in a range, and what number they make of the bits
before them. -/
inductive Continues : Nat × Nat → Nat → List UInt8 → Nat → Prop
  | done {range : Nat × Nat} {n : Nat} : Continues range n [] n
  | more {range : Nat × Nat} {bits n : Nat} {b : UInt8} {tail : List UInt8} :
      range.1 ≤ b.toNat ∧ b.toNat ≤ range.2 →
      Continues (0x80, 0xBF) (bits * 0x40 + b.toNat % 0x40) tail n → Continues range bits (b :: tail) n

/-- The bytes that go on with a character are read as its number. -/
theorem readTail_of_continues {range : Nat × Nat} {bits n : Nat} {tail : List UInt8}
    (h : Continues range bits tail n) (rest : List UInt8) :
    readTail bits range tail.length (tail ++ rest) = (some n, rest) := by
  induction h with
  | done => cases rest <;> rfl
  | more hb _ ih =>
    rw [List.length_cons, List.cons_append, readTail, if_pos hb]
    exact ih

/-- What is read after the first byte goes on with the character. -/
theorem continues_of_readTail {range : Nat × Nat} {bits n count : Nat} {bytes rest : List UInt8}
    (h : readTail bits range count bytes = (some n, rest)) :
    ∃ tail, bytes = tail ++ rest ∧ tail.length = count ∧ Continues range bits tail n := by
  induction count generalizing bits range bytes with
  | zero =>
    cases bytes <;> (cases h; exact ⟨[], rfl, rfl, .done⟩)
  | succ count ih =>
    cases bytes with
    | nil => cases h
    | cons b bytes =>
      rw [readTail] at h
      split at h
      · next hb =>
        obtain ⟨tail, rfl, rfl, htail⟩ := ih h
        exact ⟨b :: tail, rfl, rfl, .more hb htail⟩
      · cases h

theorem continues_cons {range : Nat × Nat} {bits n : Nat} {b : UInt8} {tail : List UInt8} :
    Continues range bits (b :: tail) n ↔ (range.1 ≤ b.toNat ∧ b.toNat ≤ range.2) ∧
      Continues (0x80, 0xBF) (bits * 0x40 + b.toNat % 0x40) tail n :=
  ⟨fun | .more hb htail => ⟨hb, htail⟩, fun h => .more h.1 h.2⟩

theorem continues_nil {range : Nat × Nat} {bits n : Nat} : Continues range bits [] n ↔ bits = n :=
  ⟨fun | .done => rfl, fun | rfl => .done⟩

theorem ofNat_eq {b : UInt8} {k : Nat} (h : b.toNat = k) : UInt8.ofNat k = b := by
  rw [← h, UInt8.ofNat_toNat]

/-- The first byte bounds the second one, so that no number is written too long, is a surrogate, or is too
large. -/
theorem mem_secondRange_iff {first k : Nat} :
    (secondRange first).1 ≤ k ∧ k ≤ (secondRange first).2 ↔ 0x80 ≤ k ∧ k ≤ 0xBF ∧
      (first = 0xE0 → 0xA0 ≤ k) ∧ (first = 0xED → k ≤ 0x9F) ∧ (first = 0xF0 → 0x90 ≤ k) ∧
      (first = 0xF4 → k ≤ 0x8F) := by
  unfold secondRange
  repeat' split
  all_goals omega

/-- The first byte tells how many bytes come after it. -/
theorem tailLength_eq_some_iff {first k : Nat} :
    tailLength first = some k ↔ k = 0 ∧ first < 0x80 ∨ k = 1 ∧ 0xC2 ≤ first ∧ first ≤ 0xDF ∨
      k = 2 ∧ 0xE0 ≤ first ∧ first ≤ 0xEF ∨ k = 3 ∧ 0xF0 ≤ first ∧ first ≤ 0xF4 := by
  unfold tailLength
  repeat' split
  all_goals simp only [Option.some.injEq, reduceCtorEq, false_iff]; omega

/-- A first byte and the bytes after it make the number of the character that they encode. -/
theorem eq_encode_of_continues {b : UInt8} {tail : List UInt8} {n : Nat}
    (hlength : tailLength b.toNat = some tail.length)
    (h : Continues (secondRange b.toNat) (leadBits b.toNat) tail n) :
    n.isValidChar ∧ ∀ c : Char, c.toNat = n → b :: tail = utf8EncodeChar c := by
  have hfirst := tailLength_eq_some_iff.mp hlength
  have hencode : ∀ c : Char, c.val.toNat = c.toNat := fun _ => rfl
  unfold Nat.isValidChar utf8EncodeChar leadBits at *
  -- one case for each number of bytes: the ranges are just those in which the encoding has so many
  match tail with
  | [] =>
    simp only [continues_nil, List.length_nil] at h hfirst
    rw [if_pos (by omega)] at h
    refine ⟨by omega, fun c hc => ?_⟩
    simp only [hencode, hc]
    rw [if_pos (by omega), ofNat_eq h]
  | [x] =>
    simp only [continues_nil, continues_cons, mem_secondRange_iff, List.length_cons,
      List.length_nil] at h hfirst
    rw [if_neg (by omega), if_pos (by omega)] at h
    refine ⟨by omega, fun c hc => ?_⟩
    simp only [hencode, hc]
    rw [if_neg (by omega), if_pos (by omega), ofNat_eq (b := b) (by omega),
      ofNat_eq (b := x) (by omega)]
  | [x, y] =>
    simp only [continues_nil, continues_cons, mem_secondRange_iff, List.length_cons,
      List.length_nil] at h hfirst
    rw [if_neg (by omega), if_neg (by omega), if_pos (by omega)] at h
    refine ⟨by omega, fun c hc => ?_⟩
    simp only [hencode, hc]
    rw [if_neg (by omega), if_neg (by omega), if_pos (by omega),
      ofNat_eq (b := b) (by omega),
      ofNat_eq (b := x) (by omega),
      ofNat_eq (b := y) (by omega)]
  | [x, y, z] =>
    simp only [continues_nil, continues_cons, mem_secondRange_iff, List.length_cons,
      List.length_nil] at h hfirst
    rw [if_neg (by omega), if_neg (by omega), if_neg (by omega)] at h
    refine ⟨by omega, fun c hc => ?_⟩
    simp only [hencode, hc]
    rw [if_neg (by omega), if_neg (by omega), if_neg (by omega),
      ofNat_eq (b := b) (by omega),
      ofNat_eq (b := x) (by omega),
      ofNat_eq (b := y) (by omega),
      ofNat_eq (b := z) (by omega)]
  | w :: x :: y :: z :: more =>
    simp only [List.length_cons] at hfirst
    omega

/-- The encoding of a character has a first byte and bytes after it that make its number. -/
theorem continues_of_encode (c : Char) : ∃ b tail, utf8EncodeChar c = b :: tail ∧
    tailLength b.toNat = some tail.length ∧
    Continues (secondRange b.toNat) (leadBits b.toNat) tail c.toNat := by
  have hvalid : c.toNat < 0xD800 ∨ 0xDFFF < c.toNat ∧ c.toNat < 0x110000 := c.valid
  have hval : c.val.toNat = c.toNat := rfl
  -- the byte of each number is written out before the conditions on it are looked at
  have hbyte : ∀ k, k < 256 → (UInt8.ofNat k).toNat = k := fun k hk => UInt8.toNat_ofNat_of_lt' hk
  unfold utf8EncodeChar leadBits
  simp only [hval]
  generalize c.toNat = n at hvalid
  by_cases hone : n ≤ 127
  · rw [if_pos hone]
    refine ⟨_, _, rfl, ?_⟩
    simp only [tailLength_eq_some_iff, continues_nil, List.length_nil, true_and]
    rw [hbyte _ (by omega), if_pos (by omega)]
    omega
  rw [if_neg hone]
  by_cases htwo : n ≤ 2047
  · rw [if_pos htwo]
    refine ⟨_, _, rfl, ?_⟩
    simp only [tailLength_eq_some_iff, continues_cons, continues_nil, mem_secondRange_iff,
      List.length_cons, List.length_nil, Nat.zero_add, true_and]
    rw [hbyte (n / 64 % 32 + 192) (by omega), hbyte (n % 64 + 128) (by omega),
      if_neg (by omega), if_pos (by omega)]
    omega
  rw [if_neg htwo]
  by_cases hthree : n ≤ 65535
  · rw [if_pos hthree]
    refine ⟨_, _, rfl, ?_⟩
    simp only [tailLength_eq_some_iff, continues_cons, continues_nil, mem_secondRange_iff,
      List.length_cons, List.length_nil, Nat.zero_add, true_and]
    rw [hbyte (n / 4096 % 16 + 224) (by omega), hbyte (n / 64 % 64 + 128) (by omega),
      hbyte (n % 64 + 128) (by omega), if_neg (by omega), if_neg (by omega), if_pos (by omega)]
    omega
  rw [if_neg hthree]
  refine ⟨_, _, rfl, ?_⟩
  simp only [tailLength_eq_some_iff, continues_cons, continues_nil, mem_secondRange_iff,
    List.length_cons, List.length_nil, Nat.zero_add, true_and]
  rw [hbyte (n / 262144 % 8 + 240) (by omega), hbyte (n / 4096 % 64 + 128) (by omega),
    hbyte (n / 64 % 64 + 128) (by omega), hbyte (n % 64 + 128) (by omega), if_neg (by omega),
    if_neg (by omega), if_neg (by omega)]
  omega

/-- The bytes of a character are read as the character, whatever comes after them. -/
theorem next_append (c : Char) : ∃ b tail, utf8EncodeChar c = b :: tail ∧
    ∀ rest, next b (tail ++ rest) = (some c, rest) := by
  obtain ⟨b, tail, hencode, hlength, htail⟩ := continues_of_encode c
  refine ⟨b, tail, hencode, fun rest => ?_⟩
  unfold next
  simp only [hlength, readTail_of_continues htail, Option.map_some, Char.ofNat_toNat]

/-- A character that is read has the bytes that were read for it. -/
theorem append_of_next {b : UInt8} {bytes rest : List UInt8} {c : Char}
    (h : next b bytes = (some c, rest)) : b :: bytes = utf8EncodeChar c ++ rest := by
  unfold next at h
  cases hlength : tailLength b.toNat with
  | none =>
    rw [hlength] at h
    cases h
  | some count =>
    rw [hlength] at h
    obtain ⟨hbits, hrest⟩ := Prod.mk.inj h
    obtain ⟨n, hn, hc⟩ := Option.map_eq_some_iff.mp hbits
    obtain ⟨tail, rfl, rfl, htail⟩ := continues_of_readTail (Prod.ext hn hrest)
    obtain ⟨hvalid, hencode⟩ := eq_encode_of_continues hlength htail
    have hnumber : c.toNat = n := by
      rw [← hc, Char.ofNat, dif_pos hvalid]
      rfl
    rw [← hencode c hnumber, List.cons_append]

/-- The bytes of a text are read as its characters, and none of them is broken. -/
theorem parts_encode (cs : List Char) : parts (cs.flatMap utf8EncodeChar) = cs.map some := by
  induction cs with
  | nil => rw [List.flatMap_nil, parts]; rfl
  | cons c cs ih =>
    obtain ⟨b, tail, hencode, hnext⟩ := next_append c
    rw [List.flatMap_cons, hencode, List.cons_append, parts, hnext, ih, List.map_cons]

/-- Bytes without a broken character are those of the characters in them. -/
theorem eq_encode_of_parts {bytes : List UInt8} {cs : List Char} (h : parts bytes = cs.map some) :
    bytes = cs.flatMap utf8EncodeChar := by
  induction cs generalizing bytes with
  | nil =>
    cases bytes with
    | nil => rfl
    | cons b bytes => rw [parts] at h; cases h
  | cons c cs ih =>
    cases bytes with
    | nil => rw [parts] at h; cases h
    | cons b bytes =>
      rw [parts] at h
      obtain ⟨hfirst, hrest⟩ := List.cons.inj h
      rw [List.flatMap_cons, ← ih hrest]
      exact append_of_next (Prod.ext hfirst rfl)

theorem decode?_eq_some_iff_parts {bytes : List UInt8} {s : String} :
    decode? bytes = some s ↔ parts bytes = s.toList.map some := by
  have hpart : ∀ (part : Option Char) c, id part = some c ↔ part = some c := fun _ _ => Iff.rfl
  unfold decode?
  simp only [Option.map_eq_some_iff, mapM_eq_some_iff hpart]
  constructor
  · rintro ⟨cs, hcs, rfl⟩
    rwa [String.toList_ofList]
  · intro h
    exact ⟨s.toList, h, String.ofList_toList⟩

/-- The strict reading gives a text just if the bytes are its encoding. -/
theorem decode?_eq_some_iff {bytes : List UInt8} {s : String} :
    decode? bytes = some s ↔ bytes.toByteArray = s.toUTF8 := by
  have hencode : s.toUTF8 = (s.toList.flatMap utf8EncodeChar).toByteArray :=
    String.utf8Encode_toList.symm
  rw [decode?_eq_some_iff_parts, hencode, List.toByteArray_inj]
  constructor
  · exact eq_encode_of_parts
  · rintro rfl
    exact parts_encode s.toList

end Text.Utf8

end BuildJdk
