/-!
# Dates and times in configuration documents

A TOML document writes dates and times as RFC 3339 does: a date `1979-05-27`, a time
`07:32:00` with an optional fraction of a second, or a date and a time joined by `T`, `t` or a
space, then an optional offset `Z`, `z` or `±hh:mm`. Months run from 1 to 12, days to the
length of their month in the Gregorian calendar, hours to 23, minutes to 59 and seconds to
60. A fraction keeps nanoseconds: digits past the ninth are dropped, not rounded.

The text of a date-time is canonical: the date, `T`, the time with its fraction cut of
trailing zeros and left out when zero, and the offset as `Z` or with a sign and zero-padded
hours and minutes, where an offset of no minutes is `+00:00`.
-/

namespace StackCalc.Config

/-- A calendar date. -/
structure Date where
  year : Nat
  month : Nat
  day : Nat
  deriving Repr, DecidableEq, Inhabited

/-- A time of day, to the nanosecond. -/
structure Time where
  hour : Nat
  minute : Nat
  second : Nat
  nanosecond : Nat
  deriving Repr, DecidableEq, Inhabited

/-- The offset of a time from universal time. -/
inductive Offset where
  /-- Universal time itself, written `Z`. -/
  | utc
  /-- A number of minutes ahead of universal time; behind when negative. -/
  | minutes (m : Int)
  deriving Repr, DecidableEq, Inhabited

/-- A date, a time or both; an offset is given only with both. -/
structure DateTime where
  date : Option Date
  time : Option Time
  offset : Option Offset
  deriving Repr, DecidableEq, Inhabited

namespace DateTime

/-- The value of exactly `n` decimal digits at the start of a text, after the value `acc` of
those before, and the rest of the text. -/
def digitsExactly : Nat → Nat → List Char → Option (Nat × List Char)
  | 0, acc, cs => some (acc, cs)
  | _ + 1, _, [] => none
  | n + 1, acc, c :: cs =>
    if c.isDigit then digitsExactly n (acc * 10 + (c.toNat - '0'.toNat)) cs else none

/-- The text after a given character at its start. -/
def expect (c : Char) : List Char → Option (List Char)
  | d :: cs => if d = c then some cs else none
  | [] => none

/-- Whether a year of the Gregorian calendar has a 29th of February. -/
def isLeapYear (year : Nat) : Bool :=
  year % 4 == 0 && (year % 100 != 0 || year % 400 == 0)

/-- The number of days of a month. -/
def daysInMonth (year month : Nat) : Nat :=
  if month = 2 then (if isLeapYear year then 29 else 28)
  else if month = 4 ∨ month = 6 ∨ month = 9 ∨ month = 11 then 30
  else 31

/-- A date `yyyy-mm-dd` at the start of a text. -/
def readDate? (cs : List Char) : Option (Date × List Char) := do
  let (year, cs) ← digitsExactly 4 0 cs
  let cs ← expect '-' cs
  let (month, cs) ← digitsExactly 2 0 cs
  let cs ← expect '-' cs
  let (day, cs) ← digitsExactly 2 0 cs
  if 1 ≤ month ∧ month ≤ 12 ∧ 1 ≤ day ∧ day ≤ daysInMonth year month then
    some (⟨year, month, day⟩, cs)
  else none

/-- The nanoseconds of the digits of a fraction of a second: the first nine count, the others
are dropped. -/
def nanosecondsOf (digits : List Char) : Nat :=
  let kept := digits.take 9
  kept.foldl (fun acc c => acc * 10 + (c.toNat - '0'.toNat)) 0 * Nat.pow 10 (9 - kept.length)

/-- A time `hh:mm:ss`, with a fraction of a second when a point and digits follow, at the start
of a text. -/
def readTime? (cs : List Char) : Option (Time × List Char) := do
  let (hour, cs) ← digitsExactly 2 0 cs
  let cs ← expect ':' cs
  let (minute, cs) ← digitsExactly 2 0 cs
  let cs ← expect ':' cs
  let (second, cs) ← digitsExactly 2 0 cs
  if hour ≤ 23 ∧ minute ≤ 59 ∧ second ≤ 60 then
    let fraction := match cs with
      | '.' :: r => r.takeWhile Char.isDigit
      | _ => []
    if fraction.isEmpty then some (⟨hour, minute, second, 0⟩, cs)
    else some (⟨hour, minute, second, nanosecondsOf fraction⟩, cs.drop (fraction.length + 1))
  else none

/-- An offset `Z`, `z`, `+hh:mm` or `-hh:mm` at the start of a text. -/
def readOffset? : List Char → Option (Offset × List Char)
  | [] => none
  | s :: cs =>
    if s = 'Z' ∨ s = 'z' then some (.utc, cs)
    else if s = '+' ∨ s = '-' then do
      let (hours, cs) ← digitsExactly 2 0 cs
      let cs ← expect ':' cs
      let (minutes, cs) ← digitsExactly 2 0 cs
      if hours ≤ 23 ∧ minutes ≤ 59 then
        let total : Int := (hours * 60 + minutes : Nat)
        some (.minutes (if s = '-' then -total else total), cs)
      else none
    else none

/-- The time after a date: a delimiter `T`, `t` or space, then a time. -/
def readTimeAfterDate? : List Char → Option (Time × List Char)
  | d :: cs => if d = 'T' ∨ d = 't' ∨ d = ' ' then readTime? cs else none
  | [] => none

/-- A date-time at the start of a text, with the rest. The optional parts, a time after a date
and an offset after that, are taken whenever they are well formed. -/
def read? (cs : List Char) : Option (DateTime × List Char) :=
  match readDate? cs with
  | some (date, rest) =>
    match readTimeAfterDate? rest with
    | some (time, rest) =>
      match readOffset? rest with
      | some (offset, rest) => some (⟨some date, some time, some offset⟩, rest)
      | none => some (⟨some date, some time, none⟩, rest)
    | none => some (⟨some date, none, none⟩, rest)
  | none => (readTime? cs).map fun (time, rest) => (⟨none, some time, none⟩, rest)

/-- A number in decimal, padded with zeros on the left to a width. -/
def padded (width n : Nat) : String :=
  let digits := (toString n).toList
  String.ofList (List.replicate (width - digits.length) '0' ++ digits)

/-- The text of a date. -/
def dateText (d : Date) : String :=
  padded 4 d.year ++ "-" ++ padded 2 d.month ++ "-" ++ padded 2 d.day

/-- The text of a time: the fraction cut of trailing zeros, and left out when zero. -/
def timeText (t : Time) : String :=
  let fraction :=
    if t.nanosecond = 0 then ""
    else "." ++ String.ofList ((padded 9 t.nanosecond).toList.reverse.dropWhile (· = '0')).reverse
  padded 2 t.hour ++ ":" ++ padded 2 t.minute ++ ":" ++ padded 2 t.second ++ fraction

/-- The text of an offset. -/
def offsetText : Offset → String
  | .utc => "Z"
  | .minutes m =>
    (if m < 0 then "-" else "+") ++ padded 2 (m.natAbs / 60) ++ ":" ++ padded 2 (m.natAbs % 60)

/-- The canonical text of a date-time. -/
def text (dt : DateTime) : String :=
  let date := match dt.date with
    | some d => dateText d
    | none => ""
  let time := match dt.time with
    | some t => (if dt.date.isSome then "T" else "") ++ timeText t
    | none => ""
  let offset := match dt.offset with
    | some o => offsetText o
    | none => ""
  date ++ time ++ offset

end DateTime

end StackCalc.Config
