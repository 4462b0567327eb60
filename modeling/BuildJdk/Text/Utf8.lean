/-!
# UTF-8

Files and the output of programs are bytes; texts are read from them as UTF-8. A strict reading
fails at the first ill-formed byte. A lenient reading puts one replacement character for each
maximal ill-formed part: the longest run of bytes that begins a well-formed character, or else a
single byte.

Both are one recursion on the bytes, with `next` taking one character or one ill-formed part off
the front.
-/

namespace BuildJdk.Text.Utf8

/-- The character written for an ill-formed part. -/
def replacement : Char := '\uFFFD'

/-- The range that the second byte of a character must lie in, given the first. -/
def secondRange (first : Nat) : Nat × Nat :=
  if first = 0xE0 then (0xA0, 0xBF)
  else if first = 0xED then (0x80, 0x9F)
  else if first = 0xF0 then (0x90, 0xBF)
  else if first = 0xF4 then (0x80, 0x8F)
  else (0x80, 0xBF)

/-- The number of bytes after the first one, if `first` can begin a character at all. -/
def tailLength (first : Nat) : Option Nat :=
  if first < 0x80 then some 0
  else if 0xC2 ≤ first ∧ first ≤ 0xDF then some 1
  else if 0xE0 ≤ first ∧ first ≤ 0xEF then some 2
  else if 0xF0 ≤ first ∧ first ≤ 0xF4 then some 3
  else none

/-- The bits of the first byte that belong to the character. -/
def leadBits (first : Nat) : Nat :=
  if first < 0x80 then first
  else if first < 0xE0 then first % 0x20
  else if first < 0xF0 then first % 0x10
  else first % 0x08

/-- Reads `count` more bytes, the next of which must lie in the range. Gives the bits gathered, or
`none` where a byte is missing or out of range, and the bytes that were not read. -/
def readTail (bits : Nat) (range : Nat × Nat) : Nat → List UInt8 → Option Nat × List UInt8
  | 0, rest => (some bits, rest)
  | _ + 1, [] => (none, [])
  | count + 1, b :: rest =>
    if range.1 ≤ b.toNat ∧ b.toNat ≤ range.2 then
      readTail (bits * 0x40 + b.toNat % 0x40) (0x80, 0xBF) count rest
    else (none, b :: rest)

theorem readTail_length (bits : Nat) (range : Nat × Nat) (count : Nat) (bytes : List UInt8) :
    (readTail bits range count bytes).2.length ≤ bytes.length := by
  induction bytes generalizing bits range count with
  | nil => cases count <;> simp [readTail]
  | cons b rest ih =>
    cases count with
    | zero => simp [readTail]
    | succ count =>
      simp only [readTail]
      split
      · exact Nat.le_succ_of_le (ih _ _ _)
      · simp

/-- The first character of `b :: rest`, or `none` for an ill-formed part, and the bytes after it. -/
def next (b : UInt8) (rest : List UInt8) : Option Char × List UInt8 :=
  match tailLength b.toNat with
  | none => (none, rest)
  | some count =>
    let (bits, rest) := readTail (leadBits b.toNat) (secondRange b.toNat) count rest
    (bits.map Char.ofNat, rest)

theorem next_length (b : UInt8) (rest : List UInt8) : (next b rest).2.length ≤ rest.length := by
  unfold next
  split
  · exact Nat.le_refl _
  · exact readTail_length _ _ _ _

/-- The characters of a sequence of bytes, with `none` in the place of each ill-formed part. -/
def parts : List UInt8 → List (Option Char)
  | [] => []
  | b :: rest => (next b rest).1 :: parts (next b rest).2
termination_by bytes => bytes.length
decreasing_by exact Nat.lt_succ_of_le (next_length b rest)

/-- The text that the bytes spell, if they are well formed. -/
def decode? (bytes : List UInt8) : Option String :=
  ((parts bytes).mapM id).map String.ofList

/-- The text that the bytes spell, with a replacement character for each ill-formed part. -/
def decodeLenient (bytes : List UInt8) : String :=
  String.ofList ((parts bytes).map (·.getD replacement))

/-- The bytes that spell a text. -/
def encode (s : String) : List UInt8 := s.toUTF8.toList

end BuildJdk.Text.Utf8
