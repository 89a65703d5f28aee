import ClusterAudit.Text.Blank
import ClusterAudit.Text.Decimal

/-!
Instants: points on the civil time line. Their text is that of RFC 3339.
-/

namespace ClusterAudit

/-- A moment: seconds since 1970, and nanoseconds within the second. A leap second is the second
before it with nanoseconds beyond 999999999. -/
structure Instant where
  seconds : Int
  nanos : Nat
deriving DecidableEq, Repr

namespace Instant

open Text

/-- The nanoseconds lie in a leap second. -/
def isLeap (instant : Instant) : Bool :=
  1000000000 ≤ instant.nanos

/-- The start of the second that an instant lies in. -/
def inSeconds (instant : Instant) : Instant :=
  { instant with nanos := if instant.isLeap then 1000000000 else 0 }

/-- Whether one instant is strictly before another. -/
def isBefore (left right : Instant) : Bool :=
  left.seconds < right.seconds || (left.seconds == right.seconds && left.nanos < right.nanos)

/-! ## Calendar -/

/-- A day of the proleptic Gregorian calendar. -/
structure Day where
  year : Int
  month : Nat
  day : Nat
deriving DecidableEq, Repr

def isLeapYear (year : Int) : Bool :=
  year % 4 == 0 && (year % 100 != 0 || year % 400 == 0)

def daysInMonth (year : Int) (month : Nat) : Nat :=
  if month == 2 then if isLeapYear year then 29 else 28
  else if month == 4 || month == 6 || month == 9 || month == 11 then 30
  else 31

def Day.isValid (date : Day) : Bool :=
  1 ≤ date.month && date.month ≤ 12 && 1 ≤ date.day &&
    date.day ≤ daysInMonth date.year date.month

/-- Days since the first of January 1970. Years are taken to start in March, so that the leap day
is the last one. -/
def Day.number (date : Day) : Int :=
  let shifted : Int := if date.month ≤ 2 then date.year - 1 else date.year
  let era := shifted.fdiv 400
  let yearOfEra := shifted - era * 400
  let monthFromMarch := (date.month + 9) % 12
  let dayOfYear : Int := (153 * monthFromMarch + 2) / 5 + date.day - 1
  let dayOfEra := yearOfEra * 365 + yearOfEra / 4 - yearOfEra / 100 + dayOfYear
  era * 146097 + dayOfEra - 719468

/-- The day with a given number. -/
def Day.ofNumber (number : Int) : Day :=
  let shifted := number + 719468
  let era := shifted.fdiv 146097
  let dayOfEra := (shifted - era * 146097).toNat
  let yearOfEra :=
    (dayOfEra - dayOfEra / 1460 + dayOfEra / 36524 - dayOfEra / 146096) / 365
  let dayOfYear := dayOfEra - (365 * yearOfEra + yearOfEra / 4 - yearOfEra / 100)
  let monthFromMarch := (5 * dayOfYear + 2) / 153
  let month := if monthFromMarch < 10 then monthFromMarch + 3 else monthFromMarch - 9
  let year : Int := yearOfEra + era * 400
  { year := if month ≤ 2 then year + 1 else year
    month
    day := dayOfYear - (153 * monthFromMarch + 2) / 5 + 1 }

/-! ## Writing -/

/-- A year in four digits; one outside the years 0 to 9999 carries its sign. -/
def yearText (year : Int) : List Char :=
  if 0 ≤ year ∧ year ≤ 9999 then paddedDigits 4 year.natAbs
  else (if year < 0 then '-' else '+') :: paddedDigits 4 year.natAbs

/-- The point and digits of a fraction of a second: none, or the fewest of 3, 6 or 9 that are
exact. -/
def fractionText (nanos : Nat) : List Char :=
  if nanos == 0 then []
  else if nanos % 1000000 == 0 then '.' :: paddedDigits 3 (nanos / 1000000)
  else if nanos % 1000 == 0 then '.' :: paddedDigits 6 (nanos / 1000)
  else '.' :: paddedDigits 9 nanos

/-- Date and time of day in universal time, with the given fraction of a second. -/
def civilText (seconds : Int) (leap : Bool) (fraction : List Char) : List Char :=
  let number := seconds.fdiv 86400
  let second := (seconds - number * 86400).toNat
  let date := Day.ofNumber number
  yearText date.year ++ '-' :: paddedDigits 2 date.month ++ '-' :: paddedDigits 2 date.day ++
    'T' :: paddedDigits 2 (second / 3600) ++ ':' :: paddedDigits 2 (second / 60 % 60) ++
    ':' :: paddedDigits 2 (second % 60 + if leap then 1 else 0) ++ fraction

/-- The text of an instant without its offset. -/
def localText (instant : Instant) : List Char :=
  civilText instant.seconds instant.isLeap (fractionText (instant.nanos % 1000000000))

/-- RFC 3339 in universal time, written `Z`. -/
def toText (instant : Instant) : String :=
  String.ofList (instant.localText ++ ['Z'])

/-- RFC 3339 in universal time, written as an offset of zero. -/
def toOffsetText (instant : Instant) : String :=
  String.ofList (instant.localText ++ "+00:00".toList)

/-! ## Reading -/

/-- A number of one to `most` digits, and what follows it. -/
def readDigits? (most : Nat) (text : List Char) : Option (Nat × List Char) :=
  let written := (text.take most).takeWhile isDigit
  (natOfDigits? written).map fun value => (value, text.drop written.length)

/-- Blanks and then a number of one to `most` digits. -/
def readNumber? (most : Nat) (text : List Char) : Option (Nat × List Char) :=
  readDigits? most (trimStart text)

/-- Blanks, a given character and a number of one or two digits. -/
def readAfter? (separator : Char) (text : List Char) : Option (Nat × List Char) :=
  match trimStart text with
  | character :: rest => if character = separator then readNumber? 2 rest else none
  | [] => none

/-- A year: four digits at most, or any number of them after a sign. -/
def readYear? (text : List Char) : Option (Int × List Char) :=
  match trimStart text with
  | '-' :: rest => (readDigits? rest.length rest).map fun (year, rest) => (-(year : Int), rest)
  | '+' :: rest => (readDigits? rest.length rest).map fun (year, rest) => ((year : Int), rest)
  | text => (readDigits? 4 text).map fun (year, rest) => ((year : Int), rest)

/-- The digits after a point as nanoseconds; those beyond the ninth are dropped. -/
def readFraction? : List Char → Option (Nat × List Char)
  | '.' :: rest =>
      let written := rest.takeWhile isDigit
      let kept := written.take 9
      (natOfDigits? kept).map fun value =>
        (value * Nat.pow 10 (9 - kept.length), rest.dropWhile isDigit)
  | text => some (0, text)

/-- Two decimal digits, and what follows them. -/
def readPair? : List Char → Option (Nat × List Char)
  | tens :: ones :: rest => do
      let tens ← digitValue? tens
      let ones ← digitValue? ones
      return (tens * 10 + ones, rest)
  | _ => none

/-- The hours and minutes of an offset, in seconds. -/
def readOffsetTime? (text : List Char) : Option (Int × List Char) := do
  let (hours, rest) ← readPair? text
  let (minutes, rest) ← readPair? (rest.dropWhile fun character =>
    character == ':' || isBlank character)
  if minutes < 60 then some (((hours * 60 + minutes) * 60 : Nat), rest) else none

/-- The offset from universal time in seconds: `Z`, `UTC`, or a signed time. -/
def readOffset? : List Char → Option (Int × List Char)
  | 'Z' :: rest => some (0, rest)
  | 'z' :: rest => some (0, rest)
  | '+' :: rest => readOffsetTime? rest
  | '-' :: rest => (readOffsetTime? rest).map fun (offset, rest) => (-offset, rest)
  | '\u2212' :: rest => (readOffsetTime? rest).map fun (offset, rest) => (-offset, rest)
  | text =>
      if (text.take 3).map Char.toUpper == ['U', 'T', 'C'] then some (0, text.drop 3) else none

/-- The first and the last day that can be named. -/
def Day.first : Day := { year := -262143, month := 1, day := 1 }

def Day.last : Day := { year := 262142, month := 12, day := 31 }

/-- The second lies in the days that can be named. -/
def isNamed (seconds : Int) : Bool :=
  Day.first.number * 86400 ≤ seconds && seconds < (Day.last.number + 1) * 86400

/-- Reads an instant: a date, a separator, a time of day and an offset, with blanks between them.
Both the time as written and the universal time must lie in the days that can be named. -/
def read? (text : List Char) : Option Instant := do
  let (year, rest) ← readYear? text
  let (month, rest) ← readAfter? '-' rest
  let (day, rest) ← readAfter? '-' rest
  let rest ← match rest with
    | 't' :: rest => some rest
    | 'T' :: rest => some rest
    | ' ' :: rest => some rest
    | _ => none
  let (hour, rest) ← readNumber? 2 rest
  let (minute, rest) ← readAfter? ':' rest
  let (second, rest) ← readAfter? ':' rest
  let (nanos, rest) ← readFraction? rest
  let (offset, rest) ← readOffset? (trimStart rest)
  let date : Day := { year, month, day }
  let leap := second == 60
  let secondOfDay : Int := hour * 3600 + minute * 60 + (if leap then 59 else second)
  let seconds := date.number * 86400 + secondOfDay
  if (trimStart rest).isEmpty && date.isValid && hour < 24 && minute < 60 && second ≤ 60 &&
      -86400 < offset && offset < 86400 && isNamed seconds && isNamed (seconds - offset) then
    some {
      seconds := seconds - offset
      nanos := if leap then nanos + 1000000000 else nanos }
  else none

/-- Reads an instant. -/
def ofText? (text : String) : Option Instant :=
  read? text.toList

end Instant

end ClusterAudit
