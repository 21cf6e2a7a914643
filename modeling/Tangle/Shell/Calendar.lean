import Tangle.Shell.Octets
/-!
# Dates and times

Points in time are counted in seconds since the start of 1970, in universal
time. `Date.ofDays` finds the date of a day in the Gregorian calendar, and
`Date.toDays` counts back; `Calendar.write` shows a point in time as a
format asks for.
-/

namespace Tangle

namespace Shell

/-- A date of the Gregorian calendar. -/
structure Date where
  /-- The year. -/
  year : Int
  /-- The month, from 1. -/
  month : Nat
  /-- The day in the month, from 1. -/
  day : Nat
deriving Repr, DecidableEq

namespace Date

/-- The year has a leap day. -/
def isLeap (year : Int) : Bool := year % 4 = 0 && (year % 100 ≠ 0 || year % 400 = 0)

/-- The number of days in a month. -/
def daysIn (year : Int) (month : Nat) : Nat :=
  if month = 2 then (if isLeap year then 29 else 28)
  else if [4, 6, 9, 11].contains month then 30 else 31

/-- The number of days from the start of 1970 to a date. Years are counted
from March, so that a leap day is the last one of its year. -/
def toDays (d : Date) : Int :=
  let month : Int := d.month
  let year := if month ≤ 2 then d.year - 1 else d.year
  let inYear := (153 * ((month + 9) % 12) + 2) / 5 + d.day - 1
  365 * year + year / 4 - year / 100 + year / 400 + inYear - 719468

/-- The date so many days after the start of 1970. -/
def ofDays (days : Int) : Date :=
  let z := days + 719468
  let era := z / 146097
  let inEra := z % 146097
  let years := (inEra - inEra / 1460 + inEra / 36524 - inEra / 146096) / 365
  let inYear := inEra - (365 * years + years / 4 - years / 100)
  let m := (5 * inYear + 2) / 153
  let month := (m + 2) % 12 + 1
  let year := years + 400 * era + (if month ≤ 2 then 1 else 0)
  ⟨year, month.toNat, (inYear - (153 * m + 2) / 5 + 1).toNat⟩

/-- The day of the week, Sunday being zero. -/
def weekday (days : Int) : Nat := ((days + 4) % 7).toNat

/-- The number of days since the start of the year. -/
def dayOfYear (d : Date) : Nat := (d.toDays - (Date.mk d.year 1 1).toDays).toNat

end Date

namespace Calendar

/-- The names of the days of the week. -/
def dayNames : List String :=
  ["Sunday", "Monday", "Tuesday", "Wednesday", "Thursday", "Friday", "Saturday"]

/-- The names of the months. -/
def monthNames : List String :=
  ["January", "February", "March", "April", "May", "June", "July", "August", "September", "October", "November",
   "December"]

/-- The year and the number of the week to which a day belongs. Weeks start
on Monday and belong to the year in which their Thursday lies. -/
def week (days : Int) : Int × Nat :=
  let fromMonday := (Date.weekday days + 6) % 7
  let thursday := Date.ofDays (days - fromMonday + 3)
  (thursday.year, thursday.dayOfYear / 7 + 1)

/-- What a letter of a format asks for. -/
inductive Field where
  /-- A number of so many digits, filled with a character. -/
  | number (value : Int) (width : Nat) (fill : Char)
  /-- A text. -/
  | text (s : String)
  /-- What another format asks for. -/
  | format (s : String)

/-- What a letter asks for at a point in time. Where the nanoseconds are
told, parts of seconds can be asked for. -/
def field? (nanoseconds : Option Nat) (seconds : Int) (letter : Char) : Option Field :=
  let days := seconds / 86400
  let date := Date.ofDays days
  let hour := (seconds % 86400) / 3600
  let minute := (seconds % 3600) / 60
  let weekday := Date.weekday days
  let yearDay : Int := date.dayOfYear
  let twelve := if hour % 12 = 0 then 12 else hour % 12
  let day := (dayNames[weekday]?).getD ""
  let month := (monthNames[date.month - 1]?).getD ""
  match letter with
  | '%' => some (.text "%")
  | 'n' => some (.text "\n")
  | 't' => some (.text "\t")
  | 'a' => some (.text (day.take 3).toString)
  | 'A' => some (.text day)
  | 'b' | 'h' => some (.text (month.take 3).toString)
  | 'B' => some (.text month)
  | 'c' => some (.format "%a %b %e %H:%M:%S %Y")
  | 'C' => some (.number (date.year / 100) 2 '0')
  | 'd' => some (.number date.day 2 '0')
  | 'D' | 'x' => some (.format "%m/%d/%y")
  | 'e' => some (.number date.day 2 ' ')
  | 'F' => some (.format "%Y-%m-%d")
  | 'g' => some (.number ((week days).1 % 100) 2 '0')
  | 'G' => some (.number (week days).1 4 '0')
  | 'H' => some (.number hour 2 '0')
  | 'I' => some (.number twelve 2 '0')
  | 'j' => some (.number (yearDay + 1) 3 '0')
  | 'k' => some (.number hour 2 ' ')
  | 'l' => some (.number twelve 2 ' ')
  | 'm' => some (.number date.month 2 '0')
  | 'M' => some (.number minute 2 '0')
  | 'N' => nanoseconds.map fun n => .number n 9 '0'
  | 'p' => some (.text (if hour < 12 then "AM" else "PM"))
  | 'P' => some (.text (if hour < 12 then "am" else "pm"))
  | 'q' => nanoseconds.map fun _ => .number ((date.month - 1) / 3 + 1 : Nat) 1 '0'
  | 'r' => some (.format "%I:%M:%S %p")
  | 'R' => some (.format "%H:%M")
  | 's' => some (.number seconds 1 '0')
  | 'S' => some (.number (seconds % 60) 2 '0')
  | 'T' | 'X' => some (.format "%H:%M:%S")
  | 'u' => some (.number ((weekday + 6) % 7 + 1 : Nat) 1 '0')
  | 'U' => some (.number ((yearDay + 7 - weekday) / 7) 2 '0')
  | 'V' => some (.number (week days).2 2 '0')
  | 'w' => some (.number weekday 1 '0')
  | 'W' => some (.number ((yearDay + 7 - (weekday + 6) % 7) / 7) 2 '0')
  | 'y' => some (.number (date.year % 100) 2 '0')
  | 'Y' => some (.number date.year 4 '0')
  | 'z' => some (.text "+0000")
  | 'Z' => some (.text "UTC")
  | _ => none

/-- What stands between the percent sign and the letter of a directive. -/
structure Request where
  /-- The last flag that tells what is filled in: a minus for nothing. -/
  pad : Option Char
  /-- Letters are made large. -/
  upper : Bool
  /-- The size of letters is changed. -/
  changes : Bool
  /-- The width. -/
  width : Option Nat

/-- The request that flags and a width make. -/
def Request.of (flags width : Octets) : Request :=
  ⟨(flags.filter fun c => "-_0+".toList.contains c).getLast?, flags.contains '^', flags.contains '#', Octets.nat? width⟩

/-- A text filled up at its left. -/
def fillLeft (fill : Char) (width : Nat) (s : Octets) : Octets :=
  List.replicate (width - s.length) fill ++ s

/-- A text filled up as it is requested. -/
def Request.fit (r : Request) (s : Octets) : Octets :=
  match r.pad with
  | some '-' => s
  | some '0' | some '+' => fillLeft '0' (r.width.getD 0) s
  | _ => fillLeft ' ' (r.width.getD 0) s

/-- A number with a sign in front, filled up with blanks in front of that or
with zeros behind it. -/
def Request.signed (r : Request) (standard : Char) (width : Nat) (sign digits : Octets) : Octets :=
  match r.pad with
  | some '-' => sign ++ digits
  | some '_' => fillLeft ' ' width (sign ++ digits)
  | some _ => sign ++ fillLeft '0' (width - sign.length) digits
  | none => if standard = ' ' then fillLeft ' ' width (sign ++ digits) else sign ++ fillLeft '0' (width - sign.length) digits

/-- A number of at least some digits; a year may need a sign. -/
def Request.number (r : Request) (isExtended isYear : Bool) (value : Int) (least : Nat) (standard : Char) : Octets :=
  let digits := (toString value.natAbs).toList
  let needsPlus := isYear && r.pad = some '+' && (Int.pow 10 least ≤ value || least < r.width.getD 0)
  let sign : Octets := if value < 0 then ['-'] else if needsPlus then ['+'] else []
  if r.pad = some '-' && !isExtended then fillLeft ' ' (r.width.getD 0) (sign ++ digits)
  else r.signed standard (r.width.getD least) sign digits

/-- The fraction of a second: as many of nine digits as the width tells. Zeros
at the end are filled in. -/
def Request.fraction (r : Request) (nanoseconds : Nat) : Octets :=
  let width := match r.width with
    | some 0 | none => 9
    | some n => n
  let digits := (fillLeft '0' 9 (toString nanoseconds).toList).take width
  let kept := (digits.reverse.dropWhile (· = '0')).reverse
  let kept := if kept.isEmpty then ['0'] else kept
  match r.pad with
  | some '-' => kept
  | some '_' => kept ++ List.replicate (width - kept.length) ' '
  | _ => kept ++ List.replicate (width - kept.length) '0'

/-- The distance of the zone from universal time, which is none, with so many
colons. -/
def Request.zone (r : Request) (colons : Nat) : Octets :=
  let (least, digits) : Nat × String := match colons with
    | 0 => (5, "0")
    | 1 => (6, "0:00")
    | 2 => (9, "0:00:00")
    | _ => (3, "0")
  let zeros := match colons with
    | 1 => "00:00"
    | 2 => "00:00:00"
    | _ => digits
  let width := r.width.getD least
  match r.pad with
  | some '-' => '+' :: digits.toList
  | some '_' => fillLeft ' ' width ('+' :: digits.toList)
  | _ => '+' :: fillLeft '0' (width - 1) (if zeros.length < width then zeros.toList else digits.toList)

/-- A text in letters of the size that is requested. -/
def Request.cased (r : Request) (letter : Char) (s : Octets) : Octets :=
  if letter = 'P' then s
  else if r.changes && (letter = 'Z' || letter = 'p') then s.map Char.toLower
  else if r.upper || (r.changes && "aAbBh".toList.contains letter) then s.map Char.toUpper
  else s

/-- The letters that a modifier may not stand in front of. -/
def unmodified (modifier : Char) : String :=
  if modifier = 'E' then "aAbBdDeFgGhHIjklmMNSUVwW" else "aAcDFqxXY"

/-- Shows a point in time as a format asks for. Between the percent sign and
the letter there may be flags, a width, a modifier and colons. What has no
meaning stays as it is, but for the width. -/
def write (nanoseconds : Option Nat) (seconds : Int) : Nat → Octets → Octets
  | 0, _ => []
  | _ + 1, [] => []
  | fuel + 1, '%' :: s =>
    let isExtended := nanoseconds.isSome
    let isFlag (c : Char) : Bool := "-_0^#".toList.contains c || (isExtended && c = '+')
    let flags := s.takeWhile isFlag
    let width := (s.drop flags.length).takeWhile Char.isDigit
    let rest := s.drop (flags.length + width.length)
    let modifier : Octets := (rest.take 1).filter fun c => c = 'E' || c = 'O'
    let rest := rest.drop modifier.length
    let r := Request.of flags width
    let front := '%' :: s.take (s.length - rest.length)
    match rest with
    | [] => if front.length = 1 then front else r.fit front
    | c :: after =>
      let colons := rest.takeWhile (· = ':')
      let behind := rest.drop colons.length
      if isExtended && c = ':' && colons.length ≤ 3 && behind.head? = some 'z' then
        r.zone colons.length ++ write nanoseconds seconds fuel (behind.drop 1)
      else if c = '%' && isExtended && 1 < front.length then r.fit front ++ write nanoseconds seconds fuel rest
      else
        let shown : Octets := match field? nanoseconds seconds c with
          | none => r.fit (front ++ [c])
          | some found =>
            if modifier.any fun m => (unmodified m).toList.contains c then r.fit (front ++ [c])
            else
              match found with
              | .number value least fill =>
                if c = 'N' then r.fraction value.toNat
                else r.number isExtended (c = 'Y' || c = 'C' || c = 'G') value least fill
              | .text t => if c = 'z' && isExtended then r.zone 0 else r.fit (r.cased c t.toList)
              | .format f =>
                let text := write nanoseconds seconds fuel f.toList
                r.fit (if r.upper then text.map Char.toUpper else text)
        shown ++ write nanoseconds seconds fuel after
  | fuel + 1, c :: s => c :: write nanoseconds seconds fuel s

end Calendar

end Shell

end Tangle
