import PortableFilter.Binary64.Nearest
import PortableFilter.Calendar
import PortableFilter.Text.Blank

/-! # Timestamps

A `Timestamp` is an instant of universal time. Its text has the layout
`2024-03-01T10:15:00Z`. A leap second is the second numbered 60 of a minute.

Reading is more generous than writing: blanks may stand before a number, leading
zeros may be left out, and a year may have a sign and then any number of digits.
But a text is only taken for a timestamp if it is 20 bytes long. -/

namespace PortableFilter

/-- An instant of universal time. -/
structure Timestamp where
  /-- The number of seconds from the start of 1970, leap seconds not counted. -/
  seconds : Int
  /-- The nanoseconds within the second. A leap second has a whole second more of them than the
  second before it. -/
  nanos : Nat
  deriving DecidableEq, Repr

namespace Timestamp

/-- The number of nanoseconds in a second. -/
def nanosPerSecond : Nat := 1000000000

/-- A number written with at least `width` digits. -/
def padded (width n : Nat) : List Char :=
  let digits := Nat.toDigits 10 n
  List.replicate (width - digits.length) '0' ++ digits

/-- A year written with at least four digits, and with a sign unless it lies between 0 and
9999. -/
def yearText (year : Int) : List Char :=
  if 0 ≤ year ∧ year ≤ 9999 then padded 4 year.toNat
  else (if year < 0 then '-' else '+') :: padded 4 year.natAbs

/-- The characters of a timestamp's text. Parts of a second are left out. -/
def chars (timestamp : Timestamp) : List Char :=
  let date := Calendar.dateOfDay (timestamp.seconds / 86400)
  let inDay := (timestamp.seconds % 86400).toNat
  yearText date.year ++ '-' :: padded 2 date.month ++ '-' :: padded 2 date.day ++
    'T' :: padded 2 (inDay / 3600) ++ ':' :: padded 2 (inDay / 60 % 60) ++
    ':' :: padded 2 (inDay % 60 + timestamp.nanos / nanosPerSecond) ++ ['Z']

/-- The text of a timestamp, such as `2024-03-01T10:15:00Z`. -/
def toText (timestamp : Timestamp) : String := String.ofList timestamp.chars

/-- The first year with timestamps. -/
def firstYear : Int := -262143

/-- The last year with timestamps. -/
def lastYear : Int := 262142

/-- The timestamp of a date and a time of day, if they exist. Second 60 is a leap second. -/
def ofFields? (date : Date) (hour minute second : Nat) : Option Timestamp :=
  if firstYear ≤ date.year ∧ date.year ≤ lastYear ∧ Calendar.isDate date ∧
      hour < 24 ∧ minute < 60 ∧ second ≤ 60 then
    let leap := second / 60
    some ⟨Calendar.dayNumber date * 86400 + (hour * 3600 + minute * 60 + (second - leap) : Nat),
      leap * nanosPerSecond⟩
  else none

/-- Reads a number of one to `width` digits from the front of a text. -/
def readDigits? (width : Nat) (text : List Char) : Option (Nat × List Char) :=
  let digits := (text.takeWhile Char.isDigit).take width
  if digits = [] then none else some (Decimal.ofDigits digits, text.drop digits.length)

/-- Reads a number of one or two digits behind any blanks. -/
def readField? (text : List Char) : Option (Nat × List Char) :=
  readDigits? 2 (text.dropWhile Text.isBlank)

/-- Reads a year behind any blanks: up to four digits, or a sign and any number of digits. -/
def readYear? (text : List Char) : Option (Int × List Char) :=
  match text.dropWhile Text.isBlank with
  | '-' :: rest => (readDigits? rest.length rest).map fun (year, rest) => (-Int.ofNat year, rest)
  | '+' :: rest => (readDigits? rest.length rest).map fun (year, rest) => (Int.ofNat year, rest)
  | rest => (readDigits? 4 rest).map fun (year, rest) => (Int.ofNat year, rest)

/-- Reads one given character from the front of a text. -/
def readMark? (mark : Char) : List Char → Option (List Char)
  | c :: rest => if c = mark then some rest else none
  | [] => none

/-- Reads a timestamp that makes up a whole text. -/
def readChars? (text : List Char) : Option Timestamp := do
  let (year, text) ← readYear? text
  let (month, text) ← readField? (← readMark? '-' text)
  let (day, text) ← readField? (← readMark? '-' text)
  let (hour, text) ← readField? (← readMark? 'T' text)
  let (minute, text) ← readField? (← readMark? ':' text)
  let (second, text) ← readField? (← readMark? ':' text)
  if (← readMark? 'Z' text) = [] then ofFields? ⟨year, month, day⟩ hour minute second else none

/-- Reads a timestamp from a text of 20 bytes. -/
def read? (text : String) : Option Timestamp :=
  if text.utf8ByteSize = 20 then readChars? text.toList else none

end Timestamp

end PortableFilter
