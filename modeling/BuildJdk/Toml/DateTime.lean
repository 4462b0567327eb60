import BuildJdk.Text.Reader

/-!
# TOML dates and times

A date, a time, or a date and a time with an optional offset. Each is kept as the text of its standard
form: a `T` between date and time, at most nine digits of a second without zeros at their end, and an
offset in hours and minutes or `Z`.
-/

namespace BuildJdk.Toml

open Text Reader

/-- Two digits that write a number in a range. -/
def twoDigits (low high : Nat) : Reader (List Char) := do
  let ds ← exactly 2 Char.isDigit
  let n := Nat.ofDigitChars 10 ds 0
  if low ≤ n ∧ n ≤ high then return ds else failure

/-- The number of days in a month. -/
def daysIn (year month : Nat) : Nat :=
  let isLeap := year % 4 = 0 ∧ (year % 100 ≠ 0 ∨ year % 400 = 0)
  if month = 2 then if isLeap then 29 else 28
  else if month ∈ [4, 6, 9, 11] then 30
  else 31

/-- A date. -/
def date : Reader (List Char) := do
  let year ← exactly 4 Char.isDigit
  char '-'
  let month ← twoDigits 1 12
  char '-'
  let day ← twoDigits 1 31
  if Nat.ofDigitChars 10 day 0 ≤ daysIn (Nat.ofDigitChars 10 year 0) (Nat.ofDigitChars 10 month 0)
  then return year ++ ['-'] ++ month ++ ['-'] ++ day
  else failure

/-- The parts of a second after a point, in standard form. -/
def secondParts : Reader (List Char) := do
  char '.'
  let ds ← span1 Char.isDigit
  let kept := ((ds.take 9).reverse.dropWhile (· = '0')).reverse
  return if kept = [] then [] else '.' :: kept

/-- A time. -/
def time : Reader (List Char) := do
  let hour ← twoDigits 0 23
  char ':'
  let minute ← twoDigits 0 59
  char ':'
  let second ← twoDigits 0 60
  let parts ← optional secondParts
  return hour ++ [':'] ++ minute ++ [':'] ++ second ++ parts.getD []

/-- An offset from universal time. -/
def offset : Reader (List Char) := do
  let c ← oneOf fun c => "Zz+-".toList.contains c
  if c = 'Z' ∨ c = 'z' then return ['Z']
  let hour ← twoDigits 0 23
  char ':'
  let minute ← twoDigits 0 59
  let isZero := hour = ['0', '0'] ∧ minute = ['0', '0']
  return (if c = '-' ∧ ¬isZero then '-' else '+') :: hour ++ [':'] ++ minute

/-- A time after a date, with its offset. -/
def timeOfDay : Reader (List Char) := do
  let _ ← oneOf fun c => "Tt ".toList.contains c
  let t ← time
  let o ← optional offset
  return 'T' :: t ++ o.getD []

/-- A date, a time, or both. -/
def dateTime : Reader String :=
  (do
    let d ← date
    let t ← optional timeOfDay
    return String.ofList (d ++ t.getD []))
  <|> String.ofList <$> time

end BuildJdk.Toml
