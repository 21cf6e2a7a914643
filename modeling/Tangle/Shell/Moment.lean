import Tangle.Shell.Calendar
import Tangle.Shell.Number
/-!
# Points in time as people write them

A point in time is written as a date, a time of the day, a zone, a day of
the week, and distances from all that, in nearly any order: `2024-02-03
10:00`, `3 Feb 2024 UTC`, `next monday`, `2 days ago`, `@86400`. What is left
out is taken from the present (`Moment.read?`).
-/

namespace Tangle

namespace Shell

/-- A point in time. -/
structure Moment where
  /-- Seconds since the start of 1970. -/
  seconds : Int
  /-- Nanoseconds beyond these. -/
  nanoseconds : Nat
deriving Repr, DecidableEq

namespace Moment

/-- The point in time of so many nanoseconds since the start of 1970. -/
def ofNanoseconds (n : Int) : Moment := ⟨n / 1000000000, (n % 1000000000).toNat⟩

/-- The nanoseconds since the start of 1970. -/
def toNanoseconds (t : Moment) : Int := t.seconds * 1000000000 + t.nanoseconds

/-- A piece of a text that tells a time. -/
inductive Token where
  /-- A word, in lower case. -/
  | word (s : String)
  /-- A number with its digits and sign. -/
  | number (sign : Option Char) (digits : Octets)
  /-- A point and the digits behind it, behind a number. -/
  | fraction (digits : Octets)
  /-- A sign between the others. -/
  | mark (c : Char)
deriving Repr, DecidableEq

/-- The tokens of a text. -/
def tokens : Nat → Octets → Option (List Token)
  | 0, _ => none
  | _ + 1, [] => some []
  | fuel + 1, c :: s =>
    if Numeral.isBlank c then tokens fuel s
    else if c.isAlpha then
      let w := (c :: s).takeWhile fun d => d.isAlpha || d = '.'
      let word := String.ofList ((w.filter (· ≠ '.')).map Char.toLower)
      (tokens fuel ((c :: s).drop w.length)).map (.word word :: ·)
    else if c.isDigit then
      let ds := (c :: s).takeWhile Char.isDigit
      let rest := (c :: s).drop ds.length
      match rest with
      | '.' :: d :: rest' =>
        if d.isDigit then
          let fs := (d :: rest').takeWhile Char.isDigit
          (tokens fuel ((d :: rest').drop fs.length)).map ([.number none ds, .fraction fs] ++ ·)
        else (tokens fuel rest).map (.number none ds :: ·)
      | rest => (tokens fuel rest).map (.number none ds :: ·)
    else if (c = '-' || c = '+') && ((s.dropWhile Numeral.isBlank).head?.any Char.isDigit) then
      let ds := (s.dropWhile Numeral.isBlank).takeWhile Char.isDigit
      (tokens fuel ((s.dropWhile Numeral.isBlank).drop ds.length)).map (.number (some c) ds :: ·)
    else if c = '(' then tokens fuel ((s.dropWhile (· ≠ ')')).drop 1)
    else if c = '-' || c = '+' then tokens fuel s
    else (tokens fuel s).map (.mark c :: ·)

/-- A distance in time. -/
structure Distance where
  /-- Years. -/
  years : Int
  /-- Months. -/
  months : Int
  /-- Days. -/
  days : Int
  /-- Seconds. -/
  seconds : Int
deriving Repr, DecidableEq

/-- What a text has told so far. -/
structure Told where
  /-- The date: a year if it is told, a month and a day. -/
  date : Option (Option Int × Nat × Nat)
  /-- The second of the day, and nanoseconds. -/
  time : Option (Int × Nat)
  /-- The distance of the zone from universal time, in seconds. -/
  zone : Option Int
  /-- The day of the week, and the number of weeks to go on. -/
  weekday : Option (Nat × Int)
  /-- The distance. -/
  distance : Distance
  /-- There is a distance, which keeps the time of the day. -/
  isMoved : Bool

/-- Nothing is told. -/
def Told.nothing : Told := ⟨none, none, none, none, ⟨0, 0, 0, 0⟩, false⟩

/-- The words that stand for one of several things by their first
letters, or the whole word. -/
def placeOf? (names : List String) (word : String) : Option Nat :=
  names.findIdx? fun name =>
    let lower := name.toLower
    lower = word || (lower.take 3).toString = word

/-- The month of a word. -/
def month? (word : String) : Option Nat :=
  if word = "sept" then some 9 else (placeOf? Calendar.monthNames word).map (· + 1)

/-- The day of the week of a word. -/
def weekday? (word : String) : Option Nat :=
  match word with
  | "tues" => some 2
  | "wednes" => some 3
  | "thur" | "thurs" => some 4
  | w => placeOf? Calendar.dayNames w

/-- The distance of zones that have names, in hours. -/
def zone? (word : String) : Option Int :=
  match word with
  | "z" | "utc" | "gmt" | "ut" | "wet" => some 0
  | "bst" | "cet" | "met" => some 1
  | "cest" | "eet" => some 2
  | "msk" => some 3
  | "jst" => some 9
  | "est" => some (-5)
  | "edt" => some (-4)
  | "cst" => some (-6)
  | "cdt" => some (-5)
  | "mst" => some (-7)
  | "mdt" => some (-6)
  | "pst" => some (-8)
  | "pdt" => some (-7)
  | _ => none

/-- The distance of zones that have letters, in hours. -/
def letterZone? (word : String) : Option Int :=
  match word.toList with
  | [c] =>
    if 'a' ≤ c && c ≤ 'i' then some (c.toNat - 96)
    else if 'k' ≤ c && c ≤ 'm' then some (c.toNat - 97)
    else if 'n' ≤ c && c ≤ 'y' then some (109 - (c.toNat : Int))
    else none
  | _ => none

/-- A unit of time, as a distance. -/
def unit? (word : String) : Option Distance :=
  let singular := if word.endsWith "s" && word ≠ "s" then (word.dropEnd 1).toString else word
  match singular with
  | "year" => some ⟨1, 0, 0, 0⟩
  | "month" => some ⟨0, 1, 0, 0⟩
  | "fortnight" => some ⟨0, 0, 14, 0⟩
  | "week" => some ⟨0, 0, 7, 0⟩
  | "day" => some ⟨0, 0, 1, 0⟩
  | "hour" => some ⟨0, 0, 0, 3600⟩
  | "minute" | "min" => some ⟨0, 0, 0, 60⟩
  | "second" | "sec" => some ⟨0, 0, 0, 1⟩
  | _ => none

/-- A word that stands for a number of units. -/
def ordinal? (word : String) : Option Int :=
  match word with
  | "last" => some (-1)
  | "this" => some 0
  | "next" | "first" => some 1
  | "third" => some 3
  | "fourth" => some 4
  | "fifth" => some 5
  | "sixth" => some 6
  | "seventh" => some 7
  | "eighth" => some 8
  | "ninth" => some 9
  | "tenth" => some 10
  | "eleventh" => some 11
  | "twelfth" => some 12
  | _ => none

/-- A distance taken so many times, and added to what is told. -/
def Told.move (n : Int) (d : Distance) (t : Told) : Told :=
  let e := t.distance
  { t with
    distance := ⟨e.years + n * d.years, e.months + n * d.months, e.days + n * d.days, e.seconds + n * d.seconds⟩
    isMoved := true }

/-- The number of digits. -/
def natural (ds : Octets) : Nat := (Octets.nat? ds).getD 0

/-- The year that digits write; two digits stand for one of the years from
1969 to 2068. -/
def yearOf (ds : Octets) : Int :=
  let n : Int := natural ds
  if ds.length ≤ 2 then (if n < 69 then n + 2000 else n + 1900) else n

/-- Tells a date; there is only one. -/
def Told.withDate (year : Option Int) (month day : Nat) (t : Told) : Option Told :=
  if t.date.isSome || month = 0 || 12 < month || day = 0 || 31 < day then none
  else some { t with date := some (year, month, day) }

/-- The nanoseconds that the digits behind a point write. -/
def nanosecondsOf (ds : Octets) : Nat := natural ((ds ++ List.replicate 9 '0').take 9)

/-- The distance of a zone that is written as `+0130`, or in hours. -/
def zoneOf (sign : Char) (ds : Octets) (minutes : Option Octets) : Int :=
  let n := natural ds
  let seconds : Int := match minutes with
    | some m => ((n * 60 + natural m) * 60 : Nat)
    | none => if ds.length ≤ 2 then (n * 3600 : Nat) else ((n / 100 * 60 + n % 100) * 60 : Nat)
  if sign = '-' then -seconds else seconds

/-- Tells a time of the day, with what may follow it: a half of the day and
a zone. -/
def Told.withTime (hour minute second nanoseconds : Nat) (rest : List Token) (t : Told) : Option (Told × List Token) :=
  let (hour, rest) : Option Nat × List Token := match rest with
    | .word w :: rest =>
      if w = "am" || w = "pm" then
        (if hour = 0 || 12 < hour then none else some (hour % 12 + if w = "pm" then 12 else 0), rest)
      else (some hour, .word w :: rest)
    | rest => (some hour, rest)
  hour.bind fun hour =>
    if t.time.isSome || 24 < hour || 59 < minute || 60 < second || (hour = 24 && 0 < minute + second) then none
    else
      let seconds : Int := ((hour * 60 + minute) * 60 + second : Nat)
      let t := { t with time := some (seconds, nanoseconds) }
      match rest with
      | .number (some sign) ds :: .mark ':' :: .number none m :: rest =>
        some ({ t with zone := some (zoneOf sign ds (some m)) }, rest)
      | .number (some sign) ds :: rest =>
        match rest with
        | .word w :: _ =>
          if (unit? w).isSome then some (t, .number (some sign) ds :: rest)
          else some ({ t with zone := some (zoneOf sign ds none) }, rest)
        | _ => some ({ t with zone := some (zoneOf sign ds none) }, rest)
      | rest => some (t, rest)

/-- What the token in front tells, with those that belong to it, and what
follows. -/
def Told.step (t : Told) : List Token → Option (Told × List Token)
  | .number none y :: .number (some '-') m :: .number (some '-') d :: rest =>
    (t.withDate (some (yearOf y)) (natural m) (natural d)).map (·, rest)
  | .number none h :: .mark ':' :: .number none m :: .mark ':' :: .number none s :: .fraction f :: rest =>
    t.withTime (natural h) (natural m) (natural s) (nanosecondsOf f) rest
  | .number none h :: .mark ':' :: .number none m :: .mark ':' :: .number none s :: rest =>
    t.withTime (natural h) (natural m) (natural s) 0 rest
  | .number none h :: .mark ':' :: .number none m :: rest => t.withTime (natural h) (natural m) 0 0 rest
  | .number none a :: .mark '/' :: .number none b :: .mark '/' :: .number none c :: rest =>
    (if 4 ≤ a.length then t.withDate (some (yearOf a)) (natural b) (natural c)
      else t.withDate (some (yearOf c)) (natural a) (natural b)).map (·, rest)
  | .number none a :: .mark '/' :: .number none b :: rest => (t.withDate none (natural a) (natural b)).map (·, rest)
  | .number none d :: .word w :: rest =>
    match month? w, unit? w with
    | some m, _ =>
      match rest with
      | .number (some '-') y :: rest => (t.withDate (some (yearOf y)) m (natural d)).map (·, rest)
      | .number none y :: .mark ':' :: rest =>
        (t.withDate none m (natural d)).map (·, .number none y :: .mark ':' :: rest)
      | .number none y :: rest => (t.withDate (some (yearOf y)) m (natural d)).map (·, rest)
      | rest => (t.withDate none m (natural d)).map (·, rest)
    | none, some u => some (moved (natural d) u rest)
    | none, none =>
      if w = "am" || w = "pm" then t.withTime (natural d) 0 0 0 (.word w :: rest)
      else (lone d).map (·, .word w :: rest)
  | .number none d :: rest => (lone d).map (·, rest)
  | .number (some sign) n :: .word w :: rest =>
    (unit? w).map fun u => moved (if sign = '-' then -(natural n : Int) else natural n) u rest
  | .mark ',' :: rest => some (t, rest)
  | .word w :: rest =>
    match month? w, weekday? w, unit? w, ordinal? w with
    | some m, _, _, _ =>
      match rest with
      | .number _ d :: .number (some '-') y :: rest => (t.withDate (some (yearOf y)) m (natural d)).map (·, rest)
      | .number none d :: .mark ',' :: .number none y :: rest => (t.withDate (some (yearOf y)) m (natural d)).map (·, rest)
      | .number none d :: .number none y :: .mark ':' :: rest =>
        (t.withDate none m (natural d)).map (·, .number none y :: .mark ':' :: rest)
      | .number none d :: .number none y :: rest =>
        (t.withDate (some (yearOf y)) m (natural d)).map (·, rest)
      | .number none d :: rest => (t.withDate none m (natural d)).map (·, rest)
      | _ => none
    | _, some d, _, _ => some ({ t with weekday := some (d, 0) }, rest)
    | _, _, some u, _ => some (moved 1 u rest)
    | _, _, _, some n =>
      match rest with
      | .word v :: rest =>
        match unit? v, weekday? v with
        | some u, _ => some (moved n u rest)
        | _, some d => some ({ t with weekday := some (d, n) }, rest)
        | _, _ => none
      | _ => none
    | none, none, none, none =>
      match w with
      | "now" | "today" => some ({ t with isMoved := true }, rest)
      | "tomorrow" => some (t.move 1 ⟨0, 0, 1, 0⟩, rest)
      | "yesterday" => some (t.move (-1) ⟨0, 0, 1, 0⟩, rest)
      | "t" => some (if t.date.isSome then t else { t with zone := some (-7 * 3600) }, rest)
      | w => ((zone? w).or (letterZone? w)).map fun hours => ({ t with zone := some (hours * 3600) }, rest)
  | _ => none
where
  /-- Moves on, or back if that is said. -/
  moved (n : Int) (u : Distance) (rest : List Token) : Told × List Token :=
    match rest with
    | .word "ago" :: rest => (t.move (-n) u, rest)
    | rest => (t.move n u, rest)
  /-- What a number tells that stands alone: a date, a year or a time. -/
  lone (d : Octets) : Option Told :=
    let n := natural d
    if t.date.isSome && t.time.isSome && (t.date.bind Prod.fst).isNone && 4 ≤ d.length then
      some { t with date := t.date.map fun x => (some (n : Int), x.2) }
    else if 4 < d.length then t.withDate (some ((n / 10000 : Nat) : Int)) (n / 100 % 100) (n % 100)
    else if d.length ≤ 2 then (t.withTime n 0 0 0 []).map Prod.fst
    else (t.withTime (n / 100) (n % 100) 0 0 []).map Prod.fst

/-- What tokens tell. -/
def Told.all : Nat → Told → List Token → Option Told
  | 0, _, _ => none
  | _ + 1, t, [] => some t
  | fuel + 1, t, ts => (t.step ts).bind fun (t, rest) => Told.all fuel t rest

/-- The point in time that is told, with what is left out taken from the
present. -/
def Told.moment (now : Moment) (t : Told) : Option Moment :=
  let today := Date.ofDays (now.seconds / 86400)
  let keepsTime := t.date.isNone && t.weekday.isNone && t.time.isNone && t.zone.isNone
  let (second, nanoseconds) : Int × Nat := match t.time with
    | some told => told
    | none => if keepsTime then (now.seconds % 86400, now.nanoseconds) else (0, 0)
  let date : Date := match t.date with
    | some (year, month, day) => ⟨year.getD today.year, month, day⟩
    | none => today
  if Date.daysIn date.year date.month < date.day then none
  else
    let months := date.month - 1 + t.distance.months
    let shifted : Date := ⟨date.year + t.distance.years + months / 12, (months % 12).toNat + 1, 1⟩
    let days := shifted.toDays + (date.day - 1) + t.distance.days
    let days := match t.weekday with
      | some (wanted, weeks) =>
        if t.date.isSome then days
        else
          let ahead : Int := (wanted + 7 - Date.weekday days) % 7
          days + ahead + 7 * (if 0 < weeks && ahead ≠ 0 then weeks - 1 else weeks)
      | none => days
    some ⟨days * 86400 + second - t.zone.getD 0 + t.distance.seconds, nanoseconds⟩

/-- The point in time that a text writes. -/
def read? (now : Moment) (s : Octets) : Option Moment :=
  match s.dropWhile Numeral.isBlank with
  | '@' :: r =>
    match Numeral.read? (some 10) r with
    | some ⟨n, []⟩ => some ⟨n, 0⟩
    | some ⟨n, '.' :: f⟩ => if !f.isEmpty && f.all Char.isDigit then some ⟨n, nanosecondsOf f⟩ else none
    | _ => none
  | r => (tokens (r.length + 1) r).bind fun ts => ((Told.nothing).all (ts.length + 1) ts).bind (Told.moment now)

/-- The point in time of a stamp such as `202402031000.30`, whose year can be
left out or have two digits. -/
def ofStamp? (now : Moment) (s : Octets) : Option Moment :=
  let ds := s.takeWhile Char.isDigit
  let seconds : Option Nat := match s.drop ds.length with
    | [] => some 0
    | '.' :: r => if r.length = 2 then Octets.nat? r else none
    | _ => none
  let pair (n : Nat) : Nat := natural ((ds.drop (ds.length - 8 + 2 * n)).take 2)
  let year : Option Int := match ds.length with
    | 8 => some (Date.ofDays (now.seconds / 86400)).year
    | 10 => some (yearOf (ds.take 2))
    | 12 => some (natural (ds.take 4))
    | _ => none
  match year, seconds with
  | some year, some second =>
    let (month, day, hour, minute) := (pair 0, pair 1, pair 2, pair 3)
    if month = 0 || 12 < month || day = 0 || Date.daysIn year month < day || 23 < hour || 59 < minute || 60 < second then none
    else some ⟨(Date.mk year month day).toDays * 86400 + ((hour * 60 + minute) * 60 + second : Nat), 0⟩
  | _, _ => none

end Moment

end Shell

end Tangle
