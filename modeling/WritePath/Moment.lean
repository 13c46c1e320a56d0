/-!
# Moments in text

Days of the calendar, times of the day and their distance from the common time, each read from the front
of a text by a function that answers what it read together with the rest.

A *moment* is all three of them with one character between the day and the time, such as
`2020-02-29T12:30:00.5+01:00`.  `isMoment` recognises a text that is a moment and nothing else.  The seconds
must be there, and a sixtieth second is one only where leap seconds are put in: at the end of a month in the
common time.

Days have years of four digits.  A moment late on the last of them can lie on a day that the common time has no
name for (`isBeyond`).  `instant?` counts from the beginning of the year 1970 of the common time.
-/

namespace WritePath.Moment

/-! ## Digits -/

/-- The number of exactly `count` digits, with the rest of the text. -/
def fixed? (count : Nat) (cs : List Char) : Option (Nat × List Char) :=
  let ds := cs.take count
  if ds.length = count && ds.all Char.isDigit then some (Nat.ofDigitChars 10 ds 0, cs.drop count) else none

/-- The text after one given character. -/
def after? (c : Char) : List Char → Option (List Char)
  | d :: rest => if d = c then some rest else none
  | [] => none

/-! ## Days -/

structure Day where
  year : Nat
  month : Nat
  day : Nat
  deriving DecidableEq, Repr

def daysIn (year month : Nat) : Nat :=
  if month = 2 then
    if year % 4 = 0 && (year % 100 ≠ 0 || year % 400 = 0) then 29 else 28
  else if month = 4 || month = 6 || month = 9 || month = 11 then 30
  else 31

def Day.isValid (d : Day) : Bool :=
  1 ≤ d.month && d.month ≤ 12 && 1 ≤ d.day && d.day ≤ daysIn d.year d.month

def day? (cs : List Char) : Option (Day × List Char) := do
  let (year, cs) ← fixed? 4 cs
  let cs ← after? '-' cs
  let (month, cs) ← fixed? 2 cs
  let cs ← after? '-' cs
  let (day, cs) ← fixed? 2 cs
  let d : Day := ⟨year, month, day⟩
  if d.isValid then some (d, cs) else none

/-! ## Times -/

def minutesPerDay : Nat := 24 * 60

/-- Reads hours and minutes, as a number of minutes. -/
def clock? (cs : List Char) : Option (Nat × List Char) := do
  let (hour, cs) ← fixed? 2 cs
  let cs ← after? ':' cs
  let (minute, cs) ← fixed? 2 cs
  if hour ≤ 23 && minute ≤ 59 then some (hour * 60 + minute, cs) else none

def nanosPerSecond : Nat := 1000000000

/-- The nanoseconds that the digits of a fraction say; what comes after the ninth does not matter. -/
def nanosOf (ds : List Char) : Nat :=
  Nat.ofDigitChars 10 ((ds ++ List.replicate 9 '0').take 9) 0

/-- Reads the fraction of a second, if there is one, as a number of nanoseconds. -/
def fraction? : List Char → Option (Nat × List Char)
  | '.' :: rest =>
    match rest.takeWhile Char.isDigit with
    | [] => none
    | d :: ds => some (nanosOf (d :: ds), rest.dropWhile Char.isDigit)
  | cs => some (0, cs)

/-- Reads the seconds after a colon, and the nanoseconds of their fraction. -/
def seconds? (cs : List Char) : Option (Nat × Nat × List Char) := do
  let cs ← after? ':' cs
  let (second, cs) ← fixed? 2 cs
  let (nanos, cs) ← fraction? cs
  if second ≤ 60 then some (second, nanos, cs) else none

/-- Reads how many minutes a time is ahead of the common one. -/
def zone? : List Char → Option (Int × List Char)
  | 'Z' :: rest | 'z' :: rest => some (0, rest)
  | '+' :: rest => (clock? rest).map (fun r => (r.1, r.2))
  | '-' :: rest => (clock? rest).map (fun r => (-r.1, r.2))
  | _ => none

/-! ## Moments -/

/-- In the common time the minute is the last one of a month.  The zone moves a minute by less than a day,
so that is the last minute of the same day or of the day before. -/
def endsMonth (d : Day) (minute : Nat) (ahead : Int) : Bool :=
  let common := minute - ahead
  (common = minutesPerDay - 1 && d.day = daysIn d.year d.month) || (common = -1 && d.day = 1)

/-- A moment as it is written, at a place that is so many minutes ahead of the common time. -/
structure Written where
  day : Day
  minute : Nat
  /-- The nanoseconds since the minute began. -/
  nanos : Nat
  ahead : Int
  deriving DecidableEq, Repr

/-- The nanoseconds since a minute began.  A sixtieth second has no time of its own: it counts as the last moment of
the minute. -/
def nanosInMinute (second nanos : Nat) : Nat :=
  if second < 60 then second * nanosPerSecond + nanos else 60 * nanosPerSecond - 1

/-- Reads a moment whose parts are joined by any character of ASCII. -/
def moment? (cs : List Char) : Option (Written × List Char) := do
  let (d, cs) ← day? cs
  let cs ← match cs with
    | c :: rest => if c.toNat < 0x80 then some rest else none
    | [] => none
  let (minute, cs) ← clock? cs
  let (second, nanos, cs) ← seconds? cs
  let (ahead, cs) ← zone? cs
  if second < 60 || endsMonth d minute ahead then some (⟨d, minute, nanosInMinute second nanos, ahead⟩, cs)
  else none

/-- The moment that a text is, if it is one and nothing else. -/
def read? (s : String) : Option Written :=
  match moment? s.toList with
  | some (m, []) => some m
  | _ => none

/-- The text is a moment and nothing else. -/
def isMoment (s : String) : Bool :=
  (read? s).isSome

def lastDay : Day := ⟨9999, 12, 31⟩

/-- In the common time the moment comes after the last day of the calendar. -/
def Written.isBeyond (m : Written) : Bool :=
  m.day == lastDay && minutesPerDay ≤ m.minute - m.ahead

/-- The text is a moment that has no day in the common time. -/
def isBeyond (s : String) : Bool :=
  (read? s).any Written.isBeyond

/-! ## Counting -/

/-- How many days there are before a year, from the year 0 on. -/
def daysBeforeYear (year : Nat) : Nat :=
  365 * year + (year + 3) / 4 - (year + 99) / 100 + (year + 399) / 400

/-- How many days the first months of a year have. -/
def daysInMonths (year : Nat) : (months : Nat) → Nat
  | 0 => 0
  | month + 1 => daysInMonths year month + daysIn year (month + 1)

/-- How many days there are before a day, from the year 0 on. -/
def Day.number (d : Day) : Nat :=
  daysBeforeYear d.year + daysInMonths d.year (d.month - 1) + (d.day - 1)

/-- The day from which instants are counted. -/
def firstDay : Day := ⟨1970, 1, 1⟩

/-- The nanoseconds from the beginning of the first day to the moment; they are negative before it. -/
def Written.instant (m : Written) : Int :=
  let days : Int := m.day.number - firstDay.number
  let minutes : Int := days * minutesPerDay + m.minute - m.ahead
  minutes * (60 * nanosPerSecond) + m.nanos

/-- The instant of the moment that a text is. -/
def instant? (s : String) : Option Int :=
  (read? s).map Written.instant

example : ["2020-02-29 12:30:00Z", "1985-04-12t23:20:50.52-00:00", "2020-06-30T23:59:60Z",
    "2020-07-01T00:59:60+01:00", "0000-01-01T00:00:00z"].all isMoment := by decide +kernel

example : ["2019-02-29T12:30:00Z", "2020-01-01T00:00:60Z", "2020-01-01T24:00:00Z", "2020-01-01T00:00Z",
    "2020-01-01T00:00:00.Z", "2020-01-01T00:00:00", "2020-01-01T00:00:00Z "].any isMoment = false := by
  decide +kernel

example : ["9999-12-31T23:59:59-00:01", "9999-12-31 12:00:00-12:00"].all isBeyond = true := by decide +kernel

example : ["9999-12-31T23:59:59Z", "9999-12-31T23:58:59-00:01", "0000-01-01T00:00:00+23:59"].any isBeyond
    = false := by decide +kernel

example : ["1970-01-01T00:00:00Z", "2000-03-01T01:00:00.25+01:00", "1969-12-31T23:59:60Z"].map instant?
    = [some 0, some 951868800250000000, some (-1)] := by decide +kernel

end WritePath.Moment
