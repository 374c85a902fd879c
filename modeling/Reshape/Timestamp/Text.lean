import Reshape.Text.Numeral
import Reshape.Text.Utf8
import Reshape.Timestamp.Basic
import Reshape.Timestamp.Calendar

/-!
# The text of a timestamp

Timestamps are written and read in the format of RFC 3339.  They are written in UTC,
with the fewest fraction digits, of 0, 3, 6 and 9, that are exact; years of
other than four digits have a sign.  Any offset below a day is read.
-/

namespace Reshape

/-- Why a text is no timestamp. -/
inductive TimestampError where
  | prematureEnd
  | invalid
  | outOfRange
  | trailing
  deriving DecidableEq, Repr

def TimestampError.message : TimestampError → String
  | .prematureEnd => "premature end of input"
  | .invalid => "input contains invalid characters"
  | .outOfRange => "input is out of range"
  | .trailing => "trailing input"

namespace Timestamp

/-! ## Writing -/

def yearText (year : Int) : List Char :=
  if 0 ≤ year ∧ year ≤ 9999 then Text.padded 10 4 year.toNat
  else
    (if year < 0 then '-' else '+') ::
      (Nat.toDigits 10 year.natAbs).leftpad 4 '0'

def fractionText (nanos : Nat) : List Char :=
  if nanos = 0 then []
  else if nanos % 1000000 = 0 then '.' :: Text.padded 10 3 (nanos / 1000000)
  else if nanos % 1000 = 0 then '.' :: Text.padded 10 6 (nanos / 1000)
  else '.' :: Text.padded 10 9 nanos

def spelling (timestamp : Timestamp) : List Char :=
  let date := Date.ofDayNumber (timestamp.seconds / 86400)
  let secondOfDay := (timestamp.seconds % 86400).toNat
  let leap := timestamp.nanos / 1000000000
  yearText date.year ++
    '-' :: Text.padded 10 2 date.month ++
    '-' :: Text.padded 10 2 date.day ++
    'T' :: Text.padded 10 2 (secondOfDay / 3600) ++
    ':' :: Text.padded 10 2 (secondOfDay / 60 % 60) ++
    ':' :: Text.padded 10 2 (secondOfDay % 60 + leap) ++
    fractionText (timestamp.nanos % 1000000000) ++
    "+00:00".toList

def text (timestamp : Timestamp) : String := String.ofList timestamp.spelling

/-! ## Reading

Each reader takes its part from the front of a text and returns the rest with it. -/

def readNumber (width : Nat) (text : List Char) : Except TimestampError (Nat × List Char) :=
  let digits := text.take width
  if digits.length = width then
    match Text.readDigits? 10 digits with
    | some number => .ok (number, text.drop width)
    | none => .error .invalid
  else .error .invalid

def readOneOf (allowed : List Char) : List Char → Except TimestampError (List Char)
  | character :: rest =>
      if character ∈ allowed then .ok rest else .error .invalid
  | [] => .error .invalid

def readDate (text : List Char) : Except TimestampError (Date × List Char) := do
  let (year, text) ← readNumber 4 text
  let text ← readOneOf ['-'] text
  let (month, text) ← readNumber 2 text
  let text ← readOneOf ['-'] text
  let (day, text) ← readNumber 2 text
  let date : Date := ⟨year, month, day⟩
  if date.Exists then .ok (date, text) else .error .outOfRange

/-- The nanoseconds of a fraction, if there is one.  Digits past the ninth are dropped. -/
def readFraction : List Char → Except TimestampError (Nat × List Char)
  | '.' :: text =>
      let digits := text.takeWhile Text.isDigit
      if digits = [] then .error (if text = [] then .prematureEnd else .invalid)
      else
        match Text.readDigits? 10 ((digits.take 9).rightpad 9 '0') with
        | some nanos => .ok (nanos, text.dropWhile Text.isDigit)
        | none => .error .invalid
  | text => .ok (0, text)

/-- The second of the day and the nanoseconds; a second 60 is a leap second. -/
def readTime (text : List Char) :
    Except TimestampError ((Nat × Nat) × List Char) := do
  let (hour, text) ← readNumber 2 text
  let text ← readOneOf [':'] text
  let (minute, text) ← readNumber 2 text
  let text ← readOneOf [':'] text
  let (second, text) ← readNumber 2 text
  let (nanos, text) ← readFraction text
  if 23 < hour ∨ 59 < minute ∨ 60 < second then .error .outOfRange
  else if second = 60 then .ok ((3600 * hour + 60 * minute + 59, nanos + 1000000000), text)
  else .ok ((3600 * hour + 60 * minute + second, nanos), text)

/-- The hours and minutes after the sign of an offset, in seconds. -/
def readOffsetSize (text : List Char) : Except TimestampError (Nat × List Char) := do
  if Text.Utf8.octets text < 2 then .error .prematureEnd
  let (hours, text) ← readNumber 2 text
  if text = [] then .error .prematureEnd
  let text ← readOneOf [':'] text
  if Text.Utf8.octets text < 2 then .error .prematureEnd
  let (minutes, text) ← readNumber 2 text
  if 59 < minutes then .error .outOfRange
  .ok (3600 * hours + 60 * minutes, text)

/-- The seconds by which local time is ahead of UTC. -/
def readOffset : List Char → Except TimestampError (Int × List Char)
  | [] => .error .prematureEnd
  | sign :: text =>
      if sign = 'Z' ∨ sign = 'z' then .ok (0, text)
      else if sign = '+' then (readOffsetSize text).map fun (size, rest) => (↑size, rest)
      else if sign = '-' ∨ sign = '\u2212' then
        (readOffsetSize text).map fun (size, rest) => (-↑size, rest)
      else .error .invalid

def parse (text : String) : Except TimestampError Timestamp := do
  let text := text.toList
  if Text.Utf8.octets text < 19 then .error .prematureEnd
  let (date, text) ← readDate text
  let text ← readOneOf ['T', 't', ' '] text
  let ((second, nanos), text) ← readTime text
  let (offset, text) ← readOffset text
  if text ≠ [] then .error .trailing
  if 86400 ≤ offset.natAbs then .error .outOfRange
  match ofParts? (86400 * date.dayNumber + second - offset) nanos with
  | some timestamp => .ok timestamp
  | none => .error .outOfRange

end Timestamp

end Reshape
