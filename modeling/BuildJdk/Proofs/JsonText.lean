import BuildJdk.Json.Reader
import BuildJdk.Proofs.Decimal
import BuildJdk.Proofs.Trimming
import BuildJdk.Report.Format

/-!
# Reading back what is written

A value is read back from the text that it is written as, whatever its strings have in them. Its numbers have
to be natural numbers, as all the numbers that the program writes are.

The proof follows the text. Each reader takes the piece that was written for its value and leaves what
follows; only a number has to be followed by a character that it cannot go on with. The blanks that a layout
sets in front of a part are taken together with the part before it.

Main statement: a value is read back from every layout that sets its parts apart by blanks.
-/

namespace BuildJdk.Text.Reader

variable {α β : Type} {s s' : List Char}

/-! ## Readers put together -/

theorem bind_of_some {p : Reader α} {k : α → Reader β} {a : α} (h : p s = some (a, s')) :
    (p >>= k) s = k a s' := by
  show (p s >>= fun x => k x.1 x.2) = _
  rw [h]
  rfl

theorem bind_of_none {p : Reader α} {k : α → Reader β} (h : p s = none) : (p >>= k) s = none := by
  show (p s >>= fun x => k x.1 x.2) = _
  rw [h]
  rfl

theorem map_of_some {p : Reader α} {a : α} (f : α → β) (h : p s = some (a, s')) :
    (f <$> p) s = some (f a, s') := by
  show (p s >>= fun x => some (f x.1, x.2)) = _
  rw [h]
  rfl

theorem map_of_none {p : Reader α} (f : α → β) (h : p s = none) : (f <$> p) s = none := by
  show (p s >>= fun x => some (f x.1, x.2)) = _
  rw [h]
  rfl

theorem orElse_of_some {p q : Reader α} {r : α × List Char} (h : p s = some r) :
    (p <|> q) s = some r := by
  show (p s <|> q s) = _
  rw [h]
  rfl

theorem orElse_of_none {p q : Reader α} (h : p s = none) : (p <|> q) s = q s := by
  show (p s <|> q s) = _
  rw [h]
  rfl

/-! ## Characters -/

theorem char_cons (c : Char) (s : List Char) : char c (c :: s) = some ((), s) := if_pos rfl

/-- A character is not read where another one stands, or none. -/
theorem char_of_head (c : Char) (h : ∀ d ∈ s.head?, c ≠ d) : char c s = none := by
  cases s with
  | nil => rfl
  | cons d s => exact if_neg (h d rfl)

theorem oneOf_cons {p : Char → Bool} {c : Char} (h : p c = true) (s : List Char) :
    oneOf p (c :: s) = some (c, s) := if_pos h

theorem oneOf_of_head {p : Char → Bool} (h : ∀ c ∈ s.head?, p c = false) : oneOf p s = none := by
  cases s with
  | nil => rfl
  | cons c s => exact if_neg (by simp [h c rfl])

/-- A text is read at the front of what follows it. -/
theorem literal_append (text : String) (s : List Char) :
    literal text (text.toList ++ s) = some ((), s) := by
  have hfront : text.toList.isPrefixOf (text.toList ++ s) = true :=
    List.isPrefixOf_iff_prefix.mpr (List.prefix_append _ s)
  unfold literal
  rw [if_pos hfront, List.drop_left]

/-- A text is not read where its first character does not stand. -/
theorem literal_of_head {text : String} {c : Char} {cs : List Char} (htext : text.toList = c :: cs)
    (h : ∀ d ∈ s.head?, c ≠ d) : literal text s = none := by
  unfold literal
  rw [htext]
  cases s with
  | nil => rfl
  | cons d s => exact if_neg (by simp [h d rfl])

/-- A span ends at the first character that does not belong to it. -/
theorem span_append {p : Char → Bool} {front : List Char} (hfront : ∀ c ∈ front, p c = true)
    (hrest : ∀ c ∈ s.head?, p c = false) : span p (front ++ s) = some (front, s) := by
  unfold span
  rw [takeWhile_append_stop hfront hrest, dropWhile_append_stop hfront hrest]

/-! ## Repetition -/

/-- A repetition ends where its part cannot be read. -/
theorem repeated_of_none {p : Reader α} (h : p s = none) : repeated p s = ([], s) := by
  rw [repeated, h]

/-- A repetition goes on after a part, which must take something away. -/
theorem repeated_of_some {p : Reader α} {a : α} (h : p s = some (a, s'))
    (hlt : s'.length < s.length) : repeated p s = (a :: (repeated p s').1, (repeated p s').2) := by
  rw [repeated, h]
  exact if_pos hlt

end BuildJdk.Text.Reader

namespace BuildJdk.Json

open Text Reader

/-! ## Strings -/

/-- A hexadecimal digit that is written is read as its number. -/
theorem hexValue?_digitChar {n : Nat} (h : n < 16) : hexValue? (Nat.digitChar n) = some n := by
  have hall : ∀ k ∈ List.range 16, hexValue? (Nat.digitChar k) = some k := by decide
  exact hall n (List.mem_range.mpr h)

/-- Four digits are read as a number, the highest first. -/
theorem fourDigits_cons {c₁ c₂ c₃ c₄ : Char} {n₁ n₂ n₃ n₄ : Nat} (h₁ : hexValue? c₁ = some n₁)
    (h₂ : hexValue? c₂ = some n₂) (h₃ : hexValue? c₃ = some n₃) (h₄ : hexValue? c₄ = some n₄)
    (rest : List Char) : fourDigits (c₁ :: c₂ :: c₃ :: c₄ :: rest)
      = some (16 * (16 * (16 * n₁ + n₂) + n₃) + n₄, rest) := by
  have hdigits : exactly 4 (fun c => (hexValue? c).isSome) (c₁ :: c₂ :: c₃ :: c₄ :: rest)
      = some ([c₁, c₂, c₃, c₄], rest) := if_pos ⟨rfl, by simp [h₁, h₂, h₃, h₄]⟩
  unfold fourDigits
  rw [bind_of_some hdigits]
  simp only [List.foldl_cons, List.foldl_nil, h₁, h₂, h₃, h₄, Option.getD_some, Nat.mul_zero,
    Nat.zero_add]
  rfl

/-- A control character is escaped by its number. -/
theorem escape_number {c : Char} (hc : c.toNat < 0x20) (rest : List Char) :
    escape ('\\' :: 'u' :: '0' :: '0' :: Nat.digitChar (c.toNat / 16)
      :: Nat.digitChar (c.toNat % 16) :: rest) = some (c, rest) := by
  have hzero : hexValue? '0' = some 0 := by decide
  have hnumber := fourDigits_cons hzero hzero
    (hexValue?_digitChar (n := c.toNat / 16) (by omega))
    (hexValue?_digitChar (n := c.toNat % 16) (by omega)) rest
  have hvalue : 16 * (16 * (16 * 0 + 0) + c.toNat / 16) + c.toNat % 16 = c.toNat := by omega
  rw [hvalue] at hnumber
  unfold escape
  rw [bind_of_some (char_cons _ _), bind_of_some (oneOf_cons rfl _), if_pos rfl]
  unfold codePoint
  rw [bind_of_some hnumber, if_neg (by omega), if_neg (by omega), Char.ofNat_toNat]
  rfl

/-- An escape of one letter is read as the character that it stands for. -/
theorem escape_letter {c d : Char} (hletter : letterEscape? c = some d) (rest : List Char) :
    escape ('\\' :: c :: rest) = some (d, rest) := by
  have hu : c ≠ 'u' := by
    rintro rfl
    cases hletter
  unfold escape
  rw [bind_of_some (char_cons _ _), bind_of_some (oneOf_cons rfl _), if_neg hu, hletter]
  rfl

/-- A backslash is not plain, so that an escape is read as one. -/
theorem read_escape {d : Char} {cs rest : List Char} (h : escape ('\\' :: cs) = some (d, rest)) :
    (oneOf isPlain <|> escape) ('\\' :: cs) = some (d, rest) := by
  have hplain : isPlain '\\' = false := by decide
  rw [orElse_of_none (oneOf_of_head (by rintro _ ⟨⟩; exact hplain)), h]

/-- A character from the space on is plain, but for the quote and the backslash. -/
theorem isPlain_of_le {c : Char} (hle : 0x20 ≤ c.toNat) (hquote : c ≠ '"')
    (hbackslash : c ≠ '\\') : isPlain c = true := by
  have hspace : ' ' ≤ c := UInt32.le_iff_toNat_le.mpr hle
  simp [isPlain, hspace, hquote, hbackslash]

/-- Each character of a string is read back. -/
theorem read_escapeChar (c : Char) (rest : List Char) :
    (oneOf isPlain <|> escape) (escapeChar c ++ rest) = some (c, rest) := by
  unfold escapeChar
  -- the characters with a letter of their own come first, in the order in which they are tried
  split
  · next hc => exact read_escape (escape_letter (by rw [hc]; rfl) rest)
  split
  · next hc => exact read_escape (escape_letter (by rw [hc]; rfl) rest)
  split
  · next hc => exact read_escape (escape_letter (by rw [hc]; rfl) rest)
  split
  · next hc => exact read_escape (escape_letter (by rw [hc]; rfl) rest)
  split
  · next hc => exact read_escape (escape_letter (by rw [hc]; rfl) rest)
  split
  · next hc => exact read_escape (escape_letter (by rw [hc]; rfl) rest)
  split
  · next hc => exact read_escape (escape_letter (by rw [hc]; rfl) rest)
  split
  · next hc => exact read_escape (escape_number hc rest)
  · next hquote hbackslash _ _ _ _ _ hlow =>
    exact orElse_of_some (oneOf_cons (isPlain_of_le (by omega) hquote hbackslash) rest)

theorem escapeChar_ne_nil (c : Char) : escapeChar c ≠ [] := by
  unfold escapeChar
  repeat' split
  all_goals exact List.cons_ne_nil _ _

/-- The escaped characters of a text are read back one by one, up to the closing quote. -/
theorem repeated_escaped (cs rest : List Char) :
    repeated (oneOf isPlain <|> escape) (cs.flatMap escapeChar ++ '"' :: rest)
      = (cs, '"' :: rest) := by
  induction cs with
  | nil =>
    have hplain : isPlain '"' = false := by decide
    refine repeated_of_none ?_
    exact orElse_of_none (oneOf_of_head (by rintro _ ⟨⟩; exact hplain))
  | cons c cs ih =>
    have hlength : 0 < (escapeChar c).length := List.length_pos_iff.mpr (escapeChar_ne_nil c)
    have hlt : (cs.flatMap escapeChar ++ '"' :: rest).length
        < (escapeChar c ++ (cs.flatMap escapeChar ++ '"' :: rest)).length := by
      simp only [List.length_append]
      omega
    rw [List.flatMap_cons, List.append_assoc, repeated_of_some (read_escapeChar c _) hlt, ih]

theorem quote_append (s : String) (rest : List Char) :
    quote s ++ rest = '"' :: (s.toList.flatMap escapeChar ++ '"' :: rest) := by
  simp [quote]

/-- A quoted text is read back, whatever comes after it. -/
theorem text_quote (s : String) (rest : List Char) : text (quote s ++ rest) = some (s, rest) := by
  have hmany : many (oneOf isPlain <|> escape) (s.toList.flatMap escapeChar ++ '"' :: rest)
      = some (s.toList, '"' :: rest) := congrArg some (repeated_escaped s.toList rest)
  unfold text
  rw [quote_append, bind_of_some (char_cons _ _), bind_of_some hmany,
    bind_of_some (char_cons _ _), String.ofList_toList]
  rfl

theorem text_of_head {s : List Char} (h : ∀ c ∈ s.head?, '"' ≠ c) : text s = none :=
  bind_of_none (char_of_head '"' h)

/-! ## Numbers -/

/-- No number goes on with what follows. -/
def EndsNumber (rest : List Char) : Prop :=
  ∀ c ∈ rest.head?, c.isDigit = false ∧ c ≠ '.' ∧ c ≠ 'e' ∧ c ≠ 'E'

theorem exists_repr (n : Nat) : ∃ c cs, n.repr.toList = c :: cs ∧ c.isDigit = true := by
  obtain ⟨c, cs, h⟩ := List.exists_cons_of_ne_nil (repr_ne_nil n)
  exact ⟨c, cs, h, isDigit_of_mem_repr (by rw [h]; exact List.mem_cons_self)⟩

/-- Only zero starts with a zero. -/
theorem eq_zero_of_head?_toDigits {n : Nat} (h : (Nat.toDigits 10 n).head? = some '0') :
    n = 0 := by
  induction n using Nat.strongRecOn with
  | ind n ih =>
    rw [Nat.toDigits_eq_if (by decide)] at h
    by_cases hn : n < 10
    · rw [if_pos hn] at h
      exact Nat.digitChar_eq_zero.mp (Option.some.inj h)
    · obtain ⟨c, cs, hlist⟩ : ∃ c cs, Nat.toDigits 10 (n / 10) = c :: cs :=
        List.exists_cons_of_ne_nil Nat.toDigits_ne_nil
      rw [if_neg hn, hlist] at h
      -- the first digit is that of `n / 10`, which is not zero
      have hfront := ih (n / 10) (by omega) (by rw [hlist]; exact h)
      omega

/-- A number without a fraction is read digit by digit; it has no leading zero that would end it early. -/
theorem whole_repr (n : Nat) {rest : List Char} (hrest : EndsNumber rest) :
    whole (n.repr.toList ++ rest) = some (n.repr.toList, rest) := by
  obtain ⟨c, cs, hlist, hc⟩ := exists_repr n
  unfold whole
  rw [hlist, List.cons_append]
  by_cases hzero : c = '0'
  · obtain rfl : n = 0 := eq_zero_of_head?_toDigits (by rw [← Nat.toList_repr, hlist, hzero]; rfl)
    obtain ⟨rfl, rfl⟩ : c = '0' ∧ cs = [] := by
      have hrepr : (0 : Nat).repr.toList = ['0'] := by decide
      rw [hrepr] at hlist
      obtain ⟨rfl, rfl⟩ := List.cons.inj hlist
      exact ⟨rfl, rfl⟩
    rfl
  · have hpeek : peek? (c :: (cs ++ rest)) = some (some c, c :: (cs ++ rest)) := rfl
    have hspan : span1 Char.isDigit (c :: (cs ++ rest)) = some (c :: cs, rest) := by
      have hdigits : ∀ d ∈ c :: cs, d.isDigit = true := by
        intro d hd
        rw [← hlist] at hd
        exact isDigit_of_mem_repr hd
      have hhead : (c :: (cs ++ rest)).head?.any Char.isDigit = true := by simpa using hc
      unfold span1
      rw [if_pos hhead]
      exact span_append hdigits fun d hd => (hrest d hd).1
    rw [bind_of_some hpeek]
    simpa [hzero] using hspan

theorem sign_of_head {signs s : List Char} (h : ∀ c ∈ s.head?, signs.contains c = false) :
    sign signs s = some ([], s) := by
  unfold sign
  rw [orElse_of_none (bind_of_none (oneOf_of_head h))]
  rfl

theorem fraction_of_endsNumber {rest : List Char} (h : EndsNumber rest) :
    fraction rest = some ([], rest) := by
  unfold fraction
  rw [orElse_of_none (bind_of_none (char_of_head '.' fun c hc => (h c hc).2.1.symm))]
  rfl

theorem exponent_of_endsNumber {rest : List Char} (h : EndsNumber rest) :
    exponent rest = some ([], rest) := by
  have hletter : ∀ c ∈ rest.head?, (c = 'e' || c = 'E') = false := by
    intro c hc
    simp [(h c hc).2.2.1, (h c hc).2.2.2]
  unfold exponent
  rw [orElse_of_none (bind_of_none (oneOf_of_head hletter))]
  rfl

/-- The digits of a number are read back where no other part of a number follows. -/
theorem numeral_repr (n : Nat) {rest : List Char} (hrest : EndsNumber rest) :
    numeral (n.repr.toList ++ rest) = some (n.repr, rest) := by
  obtain ⟨c, cs, hlist, hc⟩ := exists_repr n
  have hsign : sign ['-'] (n.repr.toList ++ rest) = some ([], n.repr.toList ++ rest) := by
    refine sign_of_head ?_
    rw [hlist]
    rintro _ ⟨⟩
    cases hminus : ['-'].contains c with
    | false => rfl
    | true =>
      obtain rfl : c = '-' := by simpa using hminus
      cases hc
  unfold numeral
  rw [bind_of_some hsign, bind_of_some (whole_repr n hrest),
    bind_of_some (fraction_of_endsNumber hrest), bind_of_some (exponent_of_endsNumber hrest)]
  simp only [List.nil_append, List.append_nil, String.ofList_toList]
  rfl

/-! ## Parts between brackets -/

/-- A blank that may stand between the parts of a value. -/
def isSpace (c : Char) : Bool := c = ' ' || c = '\n' || c = '\t' || c = '\r'

/-- A layout that sets the parts of a value apart by blanks only. -/
structure Layout.IsBlank (l : Layout) : Prop where
  margin : ∀ depth, ∀ c ∈ l.margin depth, isSpace c = true
  gap : ∀ c ∈ l.gap, isSpace c = true

theorem Layout.isBlank_indented : Layout.indented.IsBlank where
  margin depth c hc := by
    rcases List.mem_cons.mp hc with rfl | hc
    · rfl
    · obtain rfl := List.eq_of_mem_replicate hc
      rfl
  gap c hc := by
    obtain rfl := List.mem_singleton.mp hc
    rfl

/-- Blanks are skipped up to the first character that is none. -/
theorem space_append {blanks s : List Char} (hblanks : ∀ c ∈ blanks, isSpace c = true)
    (hs : ∀ c ∈ s.head?, isSpace c = false) : space (blanks ++ s) = some ((), s) := by
  have hspan : span isSpace (blanks ++ s) = some (blanks, s) := span_append hblanks hs
  exact bind_of_some hspan

theorem space_of_head {s : List Char} (hs : ∀ c ∈ s.head?, isSpace c = false) :
    space s = some ((), s) := by
  have hnone : space ([] ++ s) = some ((), s) := space_append nofun hs
  exact hnone

theorem dropWhile_isSpace {blanks s : List Char} (hblanks : ∀ c ∈ blanks, isSpace c = true)
    (hs : ∀ c ∈ s.head?, isSpace c = false) : (blanks ++ s).dropWhile isSpace = s := by
  have hspace : space (blanks ++ s) = some ((), (blanks ++ s).dropWhile isSpace) := rfl
  rw [space_append hblanks hs] at hspace
  exact (Prod.mk.inj (Option.some.inj hspace)).2.symm

/-- Parts that follow a first one, each after a comma and a margin. -/
def separated (margin : List Char) (parts : List (List Char)) : List Char :=
  parts.flatMap fun part => ',' :: (margin ++ part)

/-- Parts between brackets that stand at a depth. -/
def enclosed (l : Layout) (depth : Nat) (left right : Char) : List (List Char) → List Char
  | [] => [left, right]
  | part :: parts =>
    left :: (l.margin (depth + 1) ++ (part ++ (separated (l.margin (depth + 1)) parts
      ++ (l.margin depth ++ [right]))))

/-- A member of an object. -/
def memberText (l : Layout) (depth : Nat) (m : String × Json) : List Char :=
  quote m.1 ++ ':' :: (l.gap ++ write l depth m.2)

theorem writeItems_eq (l : Layout) (depth : Nat) (items : List Json) :
    writeItems l depth items = separated (l.margin depth) (items.map (write l depth)) := by
  induction items with
  | nil => rfl
  | cons item items ih =>
    rw [writeItems, ih]
    simp [separated]

theorem writeMembers_eq (l : Layout) (depth : Nat) (members : List (String × Json)) :
    writeMembers l depth members = separated (l.margin depth) (members.map (memberText l depth)) := by
  induction members with
  | nil => rfl
  | cons m members ih =>
    obtain ⟨key, value⟩ := m
    rw [writeMembers, ih]
    simp [separated, memberText]

/-- An array is written as its items between square brackets. -/
theorem write_array (l : Layout) (depth : Nat) (items : List Json) :
    write l depth (.array items) = enclosed l depth '[' ']' (items.map (write l (depth + 1))) := by
  cases items with
  | nil => rfl
  | cons item items =>
    rw [write, writeItems_eq]
    simp [enclosed]

/-- An object is written as its members between curly brackets. -/
theorem write_object (l : Layout) (depth : Nat) (members : List (String × Json)) :
    write l depth (.object members)
      = enclosed l depth '\x7b' '\x7d' (members.map (memberText l (depth + 1))) := by
  cases members with
  | nil => rfl
  | cons m members =>
    obtain ⟨key, value⟩ := m
    rw [write, writeMembers_eq]
    simp [enclosed, memberText]

section

variable {α : Type} {l : Layout} {item : Reader α} {f : α → List Char} {right : Char}

/-- A part, and the blanks after it. -/
def part (item : Reader α) : Reader α := do
  let a ← item
  space
  return a

/-- A comma and a part, and the blanks after both. -/
def nextPart (item : Reader α) : Reader α := do
  let _ ← (do char ','; space : Reader Unit)
  part item

theorem bracketed_eq (left right : Char) (item : Reader α) : bracketed left right item = (do
    char left
    space
    let items ← (do
      let first ← part item
      let rest ← many (nextPart item)
      return first :: rest : Reader (List α)) <|> pure []
    char right
    return items) := rfl

/-- What follows a part: the parts after it, and the bracket that closes them. -/
def following (l : Layout) (depth : Nat) (right : Char) (parts : List (List Char))
    (rest : List Char) : List Char :=
  separated (l.margin (depth + 1)) parts ++ (l.margin depth ++ right :: rest)

theorem endsNumber_cons {c : Char} (hc : c.isDigit = false ∧ c ≠ '.' ∧ c ≠ 'e' ∧ c ≠ 'E')
    (rest : List Char) : EndsNumber (c :: rest) := by
  rintro _ ⟨⟩
  exact hc

theorem endsNumber_of_isSpace {c : Char} (hc : isSpace c = true) (rest : List Char) :
    EndsNumber (c :: rest) := by
  have hcases : c = ' ' ∨ c = '\n' ∨ c = '\t' ∨ c = '\r' := by
    simpa [isSpace, or_assoc] using hc
  refine endsNumber_cons ?_ rest
  rcases hcases with rfl | rfl | rfl | rfl <;> decide

/-- After a part between brackets comes a comma, a blank or the closing bracket, and none of them goes on with a
number. -/
theorem endsNumber_following (hl : l.IsBlank) (hright : right = ']' ∨ right = '\x7d')
    (depth : Nat) (parts : List (List Char)) (rest : List Char) :
    EndsNumber (following l depth right parts rest) := by
  unfold following
  cases parts with
  | cons part parts => exact endsNumber_cons (by decide) _
  | nil =>
    have hmargin := hl.margin depth
    rw [separated, List.flatMap_nil, List.nil_append]
    cases hblanks : l.margin depth with
    | cons c cs =>
      rw [hblanks] at hmargin
      exact endsNumber_of_isSpace (hmargin c List.mem_cons_self) _
    | nil =>
      refine endsNumber_cons ?_ rest
      rcases hright with rfl | rfl <;> decide

theorem isSpace_bracket (hright : right = ']' ∨ right = '\x7d') : isSpace right = false := by
  rcases hright with rfl | rfl <;> rfl

/-- A part is read with the blanks behind it. -/
theorem part_append {a : α} {rest : List Char} (h : item (f a ++ rest) = some (a, rest)) :
    part item (f a ++ rest) = some (a, rest.dropWhile isSpace) := by
  unfold part
  rw [bind_of_some h]
  rfl

/-- The parts after the first one are read with the blanks around them. -/
theorem repeated_separated (hl : l.IsBlank) (hright : right = ']' ∨ right = '\x7d') {as : List α}
    (hread : ∀ a ∈ as, ∀ rest, EndsNumber rest → item (f a ++ rest) = some (a, rest))
    (hhead : ∀ a ∈ as, ∀ rest, ∀ c ∈ (f a ++ rest).head?, isSpace c = false)
    (depth : Nat) (rest : List Char) :
    repeated (nextPart item) ((following l depth right (as.map f) rest).dropWhile isSpace)
      = (as, right :: rest) := by
  -- the blanks in front of a comma or bracket are gone with the part before it
  induction as with
  | nil =>
    have hstop : (following l depth right [] rest).dropWhile isSpace = right :: rest := by
      refine dropWhile_isSpace (hl.margin depth) ?_
      rintro _ ⟨⟩
      exact isSpace_bracket hright
    have hcomma : char ',' (right :: rest) = none := by
      rcases hright with rfl | rfl <;> rfl
    rw [List.map_nil, hstop]
    exact repeated_of_none (bind_of_none (bind_of_none hcomma))
  | cons a as ih =>
    have hfirst : following l depth right ((a :: as).map f) rest
        = ',' :: (l.margin (depth + 1) ++ (f a ++ following l depth right (as.map f) rest)) := by
      simp [following, separated]
    have hspace := space_append (hl.margin (depth + 1))
      (hhead a List.mem_cons_self (following l depth right (as.map f) rest))
    have hpart := part_append (hread a List.mem_cons_self _
      (endsNumber_following hl hright depth (as.map f) rest))
    have hlt : ((following l depth right (as.map f) rest).dropWhile isSpace).length
        < (following l depth right ((a :: as).map f) rest).length := by
      have hle := (List.dropWhile_sublist isSpace
        (l := following l depth right (as.map f) rest)).length_le
      rw [hfirst]
      simp only [List.length_cons, List.length_append]
      omega
    have hkeep : (following l depth right ((a :: as).map f) rest).dropWhile isSpace
        = following l depth right ((a :: as).map f) rest := by
      rw [hfirst]
      rfl
    have hround : nextPart item (following l depth right ((a :: as).map f) rest)
        = some (a, (following l depth right (as.map f) rest).dropWhile isSpace) := by
      unfold nextPart
      rw [hfirst, bind_of_some ((bind_of_some (char_cons ',' _)).trans hspace), hpart]
    rw [hkeep, repeated_of_some hround hlt, ih (fun b hb => hread b (List.mem_cons_of_mem a hb))
      (fun b hb => hhead b (List.mem_cons_of_mem a hb))]

theorem bracketed_of_head {left : Char} {s : List Char} (h : ∀ c ∈ s.head?, left ≠ c) :
    bracketed left right item s = none := bind_of_none (char_of_head left h)

/-- Parts between brackets are read if each part is. -/
theorem bracketed_enclosed (hl : l.IsBlank) (hright : right = ']' ∨ right = '\x7d') {as : List α}
    (hread : ∀ a ∈ as, ∀ rest, EndsNumber rest → item (f a ++ rest) = some (a, rest))
    (hhead : ∀ a ∈ as, ∀ rest, ∀ c ∈ (f a ++ rest).head?, isSpace c = false)
    (hstop : ∀ rest, item (right :: rest) = none) (left : Char) (depth : Nat) (rest : List Char) :
    bracketed left right item (enclosed l depth left right (as.map f) ++ rest)
      = some (as, rest) := by
  rw [bracketed_eq]
  cases as with
  | nil =>
    -- no part starts with the bracket, so the list is read as the empty one
    have hspace : space (right :: rest) = some ((), right :: rest) := by
      refine space_of_head ?_
      rintro _ ⟨⟩
      exact isSpace_bracket hright
    have hnone : part item (right :: rest) = none := bind_of_none (hstop rest)
    have hempty : enclosed l depth left right (([] : List α).map f) ++ rest
        = left :: right :: rest := rfl
    rw [hempty, bind_of_some (char_cons left _), bind_of_some hspace,
      bind_of_some (orElse_of_none (bind_of_none hnone)), bind_of_some (char_cons right rest)]
    rfl
  | cons a as =>
    have hfirst : enclosed l depth left right ((a :: as).map f) ++ rest
        = left :: (l.margin (depth + 1) ++ (f a ++ following l depth right (as.map f) rest)) := by
      simp [enclosed, following]
    have hspace := space_append (hl.margin (depth + 1))
      (hhead a List.mem_cons_self (following l depth right (as.map f) rest))
    have hpart := part_append (hread a List.mem_cons_self _
      (endsNumber_following hl hright depth (as.map f) rest))
    have hmany : many (nextPart item) ((following l depth right (as.map f) rest).dropWhile isSpace)
        = some (as, right :: rest) :=
      congrArg some (repeated_separated hl hright
        (fun b hb => hread b (List.mem_cons_of_mem a hb))
        (fun b hb => hhead b (List.mem_cons_of_mem a hb)) depth rest)
    rw [hfirst, bind_of_some (char_cons left _), bind_of_some hspace,
      bind_of_some (orElse_of_some ((bind_of_some hpart).trans (bind_of_some hmany))),
      bind_of_some (char_cons right rest)]
    rfl

end

/-! ## Values -/

/-- A value that is nested no deeper than `n` levels, and whose numbers are natural. -/
inductive Within : Nat → Json → Prop
  | null {n : Nat} : Within n null
  | boolean {n : Nat} {b : Bool} : Within n (boolean b)
  | nat {n k : Nat} : Within n (nat k)
  | string {n : Nat} {s : String} : Within n (string s)
  | array {n : Nat} {items : List Json} :
      (∀ item ∈ items, Within n item) → Within (n + 1) (array items)
  | object {n : Nat} {members : List (String × Json)} :
      (∀ m ∈ members, Within n m.2) → Within (n + 1) (object members)

/-- The digits of a number are read as the number. -/
theorem scalar_repr (k : Nat) {rest : List Char} (hrest : EndsNumber rest) :
    scalar (k.repr.toList ++ rest) = some (nat k, rest) := by
  obtain ⟨c, cs, hlist, hc⟩ := exists_repr k
  have hhead : ∀ d ∈ (k.repr.toList ++ rest).head?, d.isDigit = true := by
    rw [hlist]
    rintro _ ⟨⟩
    exact hc
  have hother : ∀ d : Char, d.isDigit = false → ∀ e ∈ (k.repr.toList ++ rest).head?, d ≠ e := by
    rintro d hd e he rfl
    rw [hhead d he] at hd
    cases hd
  unfold scalar
  rw [orElse_of_none (bind_of_none (literal_of_head rfl (hother 'n' rfl))),
    orElse_of_none (bind_of_none (literal_of_head rfl (hother 't' rfl))),
    orElse_of_none (bind_of_none (literal_of_head rfl (hother 'f' rfl))),
    orElse_of_none (map_of_none _ (text_of_head (hother '"' rfl))),
    map_of_some _ (numeral_repr k hrest)]
  rfl

/-- A quoted text is read as the text. -/
theorem scalar_quote (s : String) (rest : List Char) :
    scalar (quote s ++ rest) = some (.string s, rest) := by
  have hother : ∀ d : Char, d ≠ '"' → ∀ e ∈ (quote s ++ rest).head?, d ≠ e := by
    rintro d hd e he rfl
    rw [quote_append] at he
    exact hd (Option.some.inj he).symm
  unfold scalar
  rw [orElse_of_none (bind_of_none (literal_of_head rfl (hother 'n' (by decide)))),
    orElse_of_none (bind_of_none (literal_of_head rfl (hother 't' (by decide)))),
    orElse_of_none (bind_of_none (literal_of_head rfl (hother 'f' (by decide)))),
    orElse_of_some (map_of_some _ (text_quote s rest))]

/-- A value that does not start with a bracket is a scalar. -/
theorem valueWithin_of_head {s : List Char} (h : ∀ c ∈ s.head?, c ≠ '[' ∧ c ≠ '\x7b') (n : Nat) :
    valueWithin n s = scalar s := by
  cases n with
  | zero => rfl
  | succ n =>
    rw [valueWithin, orElse_of_none (map_of_none _ (bracketed_of_head fun c hc => (h c hc).1.symm)),
      orElse_of_none (map_of_none _ (bracketed_of_head fun c hc => (h c hc).2.symm))]

theorem valueWithin_bracket (n : Nat) (rest : List Char) : valueWithin n (']' :: rest) = none := by
  rw [valueWithin_of_head (by rintro _ ⟨⟩; decide)]
  rfl

theorem member_bracket (n : Nat) (rest : List Char) :
    member text (valueWithin n) ('\x7d' :: rest) = none :=
  bind_of_none (text_of_head (by rintro _ ⟨⟩; decide))

/-- The writing of a value starts with no blank. -/
theorem head?_write {n : Nat} {j : Json} (h : Within n j) (l : Layout) (depth : Nat)
    (rest : List Char) : ∀ c ∈ (write l depth j ++ rest).head?, isSpace c = false := by
  have hbracket : ∀ left right parts, isSpace left = false →
      ∀ c ∈ (enclosed l depth left right parts ++ rest).head?, isSpace c = false := by
    intro left right parts hleft
    cases parts <;> (rintro _ ⟨⟩; exact hleft)
  cases h with
  | null => rintro _ ⟨⟩; rfl
  | @boolean _ b => cases b <;> (rintro _ ⟨⟩; rfl)
  | @nat _ k =>
    obtain ⟨c, cs, hlist, hc⟩ := exists_repr k
    show ∀ d ∈ (k.repr.toList ++ rest).head?, isSpace d = false
    rw [hlist]
    rintro _ ⟨⟩
    cases hspace : isSpace c with
    | false => rfl
    | true =>
      -- a blank ends a number, and a digit does not
      have hends := (endsNumber_of_isSpace hspace [] c rfl).1
      rw [hc] at hends
      cases hends
  | string => rintro _ ⟨⟩; rfl
  | array =>
    rw [write_array]
    exact hbracket '[' ']' _ rfl
  | object =>
    rw [write_object]
    exact hbracket '\x7b' '\x7d' _ rfl

/-- A member is read back if its value is. -/
theorem member_memberText {l : Layout} (hl : l.IsBlank) {n depth : Nat} {m : String × Json}
    (hm : Within n m.2) {rest : List Char}
    (hread : valueWithin n (write l depth m.2 ++ rest) = some (m.2, rest)) :
    member text (valueWithin n) (memberText l depth m ++ rest) = some (m, rest) := by
  have hcolon : space (':' :: (l.gap ++ (write l depth m.2 ++ rest)))
      = some ((), ':' :: (l.gap ++ (write l depth m.2 ++ rest))) := by
    refine space_of_head ?_
    rintro _ ⟨⟩
    rfl
  have hgap := space_append hl.gap (head?_write hm l depth rest)
  have htext : memberText l depth m ++ rest
      = quote m.1 ++ ':' :: (l.gap ++ (write l depth m.2 ++ rest)) := by
    simp [memberText]
  unfold member
  rw [htext, bind_of_some (text_quote m.1 _), bind_of_some hcolon,
    bind_of_some (char_cons ':' _), bind_of_some hgap, bind_of_some hread]
  rfl

/-- A value is read back from its writing, and what follows is left. -/
theorem valueWithin_write {l : Layout} (hl : l.IsBlank) {n : Nat} {j : Json} (h : Within n j)
    (depth : Nat) {rest : List Char} (hrest : EndsNumber rest) :
    valueWithin n (write l depth j ++ rest) = some (j, rest) := by
  induction h generalizing depth rest with
  | @null n =>
    rw [valueWithin_of_head (by rintro _ ⟨⟩; decide)]
    exact orElse_of_some (bind_of_some (literal_append "null" rest))
  | @boolean n b =>
    rw [valueWithin_of_head (by cases b <;> (rintro _ ⟨⟩; decide))]
    cases b <;> rfl
  | @nat n k =>
    have hhead : ∀ c ∈ (k.repr.toList ++ rest).head?, c ≠ '[' ∧ c ≠ '\x7b' := by
      obtain ⟨c, cs, hlist, hc⟩ := exists_repr k
      rw [hlist]
      rintro _ ⟨⟩
      constructor <;> (rintro rfl; cases hc)
    exact (valueWithin_of_head hhead n).trans (scalar_repr k hrest)
  | @string n s =>
    have hhead : ∀ c ∈ (quote s ++ rest).head?, c ≠ '[' ∧ c ≠ '\x7b' := by
      rw [quote_append]
      rintro _ ⟨⟩
      decide
    exact (valueWithin_of_head hhead n).trans (scalar_quote s rest)
  | @array n items hitems ih =>
    have hitem := bracketed_enclosed hl (Or.inl rfl)
      (fun item hmem rest hrest => ih item hmem (depth + 1) hrest)
      (fun item hmem rest => head?_write (hitems item hmem) l (depth + 1) rest)
      (valueWithin_bracket n) '[' depth rest
    rw [valueWithin, write_array]
    exact orElse_of_some (map_of_some _ hitem)
  | @object n members hmembers ih =>
    have hmember := bracketed_enclosed hl (Or.inr rfl) (f := memberText l (depth + 1))
      (fun m hmem rest hrest => member_memberText hl (hmembers m hmem) (ih m hmem (depth + 1) hrest))
      (fun m _ rest => by rintro _ ⟨⟩; rfl)
      (member_bracket n) '\x7b' depth rest
    -- it is first tried as an array
    have hbracket : ∀ s, bracketed '[' ']' (valueWithin n) ('\x7b' :: s) = none :=
      fun s => bracketed_of_head (by rintro _ ⟨⟩; decide)
    rw [valueWithin, write_object, orElse_of_none, orElse_of_some (map_of_some _ hmember)]
    cases members <;> exact map_of_none _ (hbracket _)

/-! ## Whole texts -/

/-- A value that is nested no deeper than a bound is nested no deeper than a larger one. -/
theorem Within.mono {n n' : Nat} {j : Json} (h : Within n j) (hle : n ≤ n') : Within n' j := by
  induction h generalizing n' with
  | null => exact .null
  | boolean => exact .boolean
  | nat => exact .nat
  | string => exact .string
  | array _ ih =>
    obtain ⟨m, rfl⟩ := Nat.exists_eq_add_of_lt hle
    exact .array fun item hmem => ih item hmem (by omega)
  | object _ ih =>
    obtain ⟨m, rfl⟩ := Nat.exists_eq_add_of_lt hle
    exact .object fun member hmem => ih member hmem (by omega)

theorem length_le_separated (margin : List Char) {part : List Char} {parts : List (List Char)}
    (h : part ∈ parts) : part.length ≤ (separated margin parts).length := by
  obtain ⟨before, after, rfl⟩ := List.append_of_mem h
  simp only [separated, List.flatMap_append, List.flatMap_cons, List.length_append,
    List.length_cons]
  omega

/-- Brackets make a text longer than each of its parts. -/
theorem length_lt_enclosed (l : Layout) (depth : Nat) (left right : Char) {part : List Char}
    {parts : List (List Char)} (h : part ∈ parts) :
    part.length < (enclosed l depth left right parts).length := by
  cases parts with
  | nil => cases h
  | cons first parts =>
    simp only [enclosed, List.length_cons, List.length_append]
    rcases List.mem_cons.mp h with rfl | h
    · omega
    · have hle := length_le_separated (l.margin (depth + 1)) h
      omega

theorem exists_length_enclosed (l : Layout) (depth : Nat) (left right : Char)
    (parts : List (List Char)) : ∃ k, (enclosed l depth left right parts).length = k + 1 := by
  cases parts <;> exact ⟨_, rfl⟩

theorem length_le_memberText (l : Layout) (depth : Nat) (m : String × Json) :
    (write l depth m.2).length ≤ (memberText l depth m).length := by
  simp only [memberText, List.length_append, List.length_cons]
  omega

/-- A value is nested no deeper than its writing is long. -/
theorem Within.length_write {n : Nat} {j : Json} (h : Within n j) (l : Layout) (depth : Nat) :
    Within (write l depth j).length j := by
  induction h generalizing depth with
  | null => exact .null
  | boolean => exact .boolean
  | nat => exact .nat
  | string => exact .string
  | @array n items _ ih =>
    rw [write_array]
    obtain ⟨k, hk⟩ := exists_length_enclosed l depth '[' ']' (items.map (write l (depth + 1)))
    rw [hk]
    refine .array fun item hmem => (ih item hmem (depth + 1)).mono ?_
    have hlt := length_lt_enclosed l depth '[' ']'
      (List.mem_map_of_mem (f := write l (depth + 1)) hmem)
    omega
  | @object n members _ ih =>
    rw [write_object]
    obtain ⟨k, hk⟩ := exists_length_enclosed l depth '\x7b' '\x7d'
      (members.map (memberText l (depth + 1)))
    rw [hk]
    refine .object fun m hmem => (ih m hmem (depth + 1)).mono ?_
    have hlt := length_lt_enclosed l depth '\x7b' '\x7d'
      (List.mem_map_of_mem (f := memberText l (depth + 1)) hmem)
    have hle := length_le_memberText l (depth + 1) m
    omega

/-- A value is read back from its writing, in any layout of blanks and with blanks after it. -/
theorem parse?_write {l : Layout} (hl : l.IsBlank) {n : Nat} {j : Json} (h : Within n j)
    {blanks : List Char} (hblanks : ∀ c ∈ blanks, isSpace c = true) :
    parse? (String.ofList (write l 0 j ++ blanks)) = some j := by
  have hends : EndsNumber blanks := by
    cases blanks with
    | nil => exact nofun
    | cons c cs => exact endsNumber_of_isSpace (hblanks c List.mem_cons_self) cs
  -- the reader nests no deeper than the text is long
  have hwithin : Within (write l 0 j ++ blanks).length j :=
    (h.length_write l 0).mono (by rw [List.length_append]; omega)
  have hvalue : value (write l 0 j ++ blanks) = some (j, blanks) :=
    valueWithin_write hl hwithin 0 hends
  have hspace : space blanks = some ((), []) := by
    have hall := space_append (s := []) hblanks nofun
    rwa [List.append_nil] at hall
  have hread : (do space; let j ← value; space; return j : Reader Json) (write l 0 j ++ blanks)
      = some (j, []) := by
    rw [bind_of_some (space_of_head (head?_write h l 0 blanks)), bind_of_some hvalue,
      bind_of_some hspace]
    rfl
  unfold parse? all?
  rw [String.toList_ofList, hread]

/-- A document is read back. -/
theorem parse?_document {n : Nat} {j : Json} (h : Within n j) : parse? j.document = some j := by
  have hfeed : ∀ c ∈ ['\n'], isSpace c = true := by
    intro c hc
    obtain rfl := List.mem_singleton.mp hc
    rfl
  have htext : j.document = String.ofList (write .indented 0 j ++ ['\n']) := by
    rw [String.ofList_append]
    rfl
  rw [htext]
  exact parse?_write Layout.isBlank_indented h hfeed

end BuildJdk.Json
