import Subgraph.Text.Chars
import Subgraph.Text.Lines
import Subgraph.Value.Basic

/-!
Dates in YAML scalars, with a time of day and an offset or without.
-/

namespace Subgraph.Yaml

structure TimeOfDay where
  hour : Nat
  minute : Nat
  second : Nat
  microsecond : Nat
  /-- The offset in minutes, if one is given. -/
  offset : Option Int
  deriving DecidableEq, Repr

structure Timestamp where
  year : Nat
  month : Nat
  day : Nat
  time : Option TimeOfDay
  deriving DecidableEq, Repr

namespace Timestamp

/-- A number of at least `least` and at most `most` digits. -/
def number (least most : Nat) (cs : List Char) : Option (Nat × List Char) :=
  let ds := (cs.take most).takeWhile Text.isDigit
  if ds.length < least then none else some (Nat.ofDigitChars 10 ds 0, cs.drop ds.length)

def expect (c : Char) : List Char → Option (List Char)
  | d :: r => if d = c then some r else none
  | [] => none

/-- Behind the date: a letter or blanks. -/
def readSeparator (cs : List Char) : Option (List Char) :=
  match cs with
  | 'T' :: r => some r
  | 't' :: r => some r
  | c :: r => if Text.isBlankChar c then some (r.dropWhile Text.isBlankChar) else none
  | [] => none

/-- Six digits of a fraction; further ones count for nothing. -/
def readFraction (cs : List Char) : Nat × List Char :=
  match cs with
  | '.' :: r =>
    let ds := (r.takeWhile Text.isDigit).take 6
    (Nat.ofDigitChars 10 (ds ++ List.replicate (6 - ds.length) '0') 0, r.dropWhile Text.isDigit)
  | r => (0, r)

def readOffset (cs : List Char) : Option (Option Int) :=
  match cs.dropWhile Text.isBlankChar with
  | [] => if cs.isEmpty then some none else none
  | ['Z'] => some (some 0)
  | sign :: r => do
    guard (sign == '+' || sign == '-')
    let (hours, r) ← number 1 2 r
    let minutes ← if r.isEmpty then some 0 else do
      let (n, r) ← number 2 2 (← expect ':' r)
      guard r.isEmpty
      pure n
    let offset : Int := hours * 60 + minutes
    return some (if sign == '-' then -offset else offset)

def readTime (cs : List Char) : Option TimeOfDay := do
  let (hour, r) ← number 1 2 (← readSeparator cs)
  let (minute, r) ← number 2 2 (← expect ':' r)
  let (second, r) ← number 2 2 (← expect ':' r)
  let (microsecond, r) := readFraction r
  return ⟨hour, minute, second, microsecond, ← readOffset r⟩

/-- Reads a timestamp; one line end behind it counts for nothing. -/
def read? (s : String) : Option Timestamp := do
  let (year, r) ← number 4 4 (Text.withoutFinalBreak s).toList
  let (month, r) ← number 1 2 (← expect '-' r)
  let (day, r) ← number 1 2 (← expect '-' r)
  if r.isEmpty then return ⟨year, month, day, none⟩
  else return ⟨year, month, day, some (← readTime r)⟩

/-- Whether a plain scalar is a timestamp: a date alone has all its digits. -/
def isTimestamp (s : String) : Bool :=
  match read? s with
  | some t => t.time.isSome || s.length == 10
  | none => false

def isLeap (year : Nat) : Bool := year % 4 == 0 && (year % 100 != 0 || year % 400 == 0)

def daysIn (year month : Nat) : Nat :=
  if month = 2 then (if isLeap year then 29 else 28)
  else if [4, 6, 9, 11].contains month then 30 else 31

/-- Days and seconds of a number of minutes, the seconds not negative. -/
def showSpan (minutes : Int) : String :=
  let seconds := minutes * 60
  let days := seconds / 86400
  let parts := (if days = 0 then [] else ["days=" ++ toString days])
    ++ (if seconds % 86400 = 0 then [] else ["seconds=" ++ toString (seconds % 86400)])
  "datetime.timedelta(" ++ ", ".intercalate parts ++ ")"

def minutesInDay : Int := 1440

/-- What is out of range in a timestamp. -/
def fault? (t : Timestamp) : Option String :=
  let inOffset := (t.time.bind (·.offset)).bind fun o =>
    if -minutesInDay < o ∧ o < minutesInDay then none
    else some ("offset must be a timedelta strictly between -timedelta(hours=24) and "
      ++ "timedelta(hours=24), not " ++ showSpan o ++ ".")
  let inTime := t.time.bind fun m =>
    if 23 < m.hour then some "hour must be in 0..23"
    else if 59 < m.minute then some "minute must be in 0..59"
    else if 59 < m.second then some "second must be in 0..59"
    else none
  if inOffset.isSome then inOffset
  else if t.year = 0 then some "year 0 is out of range"
  else if t.month = 0 ∨ 12 < t.month then some "month must be in 1..12"
  else if t.day = 0 ∨ daysIn t.year t.month < t.day then some "day is out of range for month"
  else inTime

/-- The number of a day, from the first one of the year 1. -/
def dayNumber (t : Timestamp) : Nat :=
  let years := t.year - 1
  let months := (List.range t.month).drop 1
  365 * years + years / 4 - years / 100 + years / 400
    + months.foldl (fun n m => n + daysIn t.year m) 0 + t.day

/-- The microseconds up to a time of day, by its own clock. -/
def localMicros (t : Timestamp) (m : TimeOfDay) : Int :=
  (((t.dayNumber * 24 + m.hour) * 60 + m.minute) * 60 + m.second) * 1000000 + m.microsecond

/-- Whether two timestamps are the same day or, with a time of day, the same instant. An instant
with an offset is none without. -/
def isSame (t u : Timestamp) : Bool :=
  match t.time, u.time with
  | none, none => t == u
  | some m, some n =>
    match m.offset, n.offset with
    | some a, some b => t.localMicros m - a * 60000000 == u.localMicros n - b * 60000000
    | none, none => t == u
    | _, _ => false
  | _, _ => false

def kind (t : Timestamp) : String := if t.time.isSome then "datetime" else "date"

def showOffset (minutes : Int) : String :=
  if minutes = 0 then "datetime.timezone.utc"
  else "datetime.timezone(" ++ showSpan minutes ++ ")"

def shown (t : Timestamp) : String :=
  let date := [t.year, t.month, t.day]
  match t.time with
  | none => "datetime.date(" ++ ", ".intercalate (date.map toString) ++ ")"
  | some m =>
    let fine := if m.microsecond = 0 then
        (if m.second = 0 then [] else [m.second]) else [m.second, m.microsecond]
    "datetime.datetime(" ++ ", ".intercalate ((date ++ [m.hour, m.minute] ++ fine).map toString
      ++ (m.offset.map fun o => "tzinfo=" ++ showOffset o).toList) ++ ")"

end Timestamp
end Subgraph.Yaml
