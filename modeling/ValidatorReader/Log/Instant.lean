import ValidatorReader.Text.Digit

/-!
# Instants

A point in time in the years from 1 to 9999 as the microseconds since their beginning, read from a date
and a time of day with an offset from universal time, and shown in universal time.
-/

namespace ValidatorReader.Log

/-- The microseconds of the years from 1 to 9999. -/
def instantBound : Nat := 315537897600000000

/-- The microseconds since the beginning of the year 1 in universal time. -/
structure Instant where
  microseconds : Nat
  lt_bound : microseconds < instantBound := by decide
deriving DecidableEq, Repr

namespace Instant

/-- The days before a year since the year 1. -/
def daysBeforeYear (year : Int) : Int :=
  let y := year - 1
  365 * y + y / 4 - y / 100 + y / 400

def isLeapYear (year : Int) : Bool :=
  year % 4 == 0 && (year % 100 != 0 || year % 400 == 0)

def monthLengths (year : Int) : List Int :=
  [31, if isLeapYear year then 29 else 28, 31, 30, 31, 30, 31, 31, 30, 31, 30, 31]

/-- The days since the beginning of the year 1 of a date. -/
def dayOfDate (year : Int) (month day : Nat) : Int :=
  daysBeforeYear year + ((monthLengths year).take (month - 1)).foldl (· + ·) 0 + (day - 1 : Int)

/-- The month and the day in it of a day of a year, which count from one and from zero. -/
def monthAndDay : Nat → List Int → Int → Nat × Int
  | month, [], day => (month, day + 1)
  | month, length :: rest, day =>
    if day < length then (month, day + 1) else monthAndDay (month + 1) rest (day - length)

/-- The year of a day: an estimate from the mean length of a year, moved on while the next year has
begun. -/
def yearOfDay (day : Int) : Int :=
  let estimate := day * 400 / 146097
  if daysBeforeYear (estimate + 2) ≤ day then estimate + 2
  else if daysBeforeYear (estimate + 1) ≤ day then estimate + 1
  else estimate

/-- A number with at least `size` digits. -/
def figures (size : Nat) (n : Int) : String :=
  let digits := toString n.toNat
  String.ofList (List.replicate (size - digits.length) '0') ++ digits

def microsecondsPerDay : Int := 86400000000

def isWhole (t : Instant) : Bool :=
  t.microseconds % 1000000 == 0

/-- The instant in universal time; a whole second has no fraction. -/
def render (t : Instant) : String :=
  let day := (t.microseconds : Int) / microsecondsPerDay
  let inDay := (t.microseconds : Int) % microsecondsPerDay
  let year := yearOfDay day
  let (month, dayOfMonth) := monthAndDay 1 (monthLengths year) (day - daysBeforeYear year)
  let seconds := inDay / 1000000
  let fraction := inDay % 1000000
  figures 4 year ++ "-" ++ figures 2 month ++ "-" ++ figures 2 dayOfMonth ++ "T" ++
    figures 2 (seconds / 3600) ++ ":" ++ figures 2 (seconds / 60 % 60) ++ ":" ++
    figures 2 (seconds % 60) ++ (if fraction = 0 then "" else "." ++ figures 6 fraction) ++ "+00:00"

/-! ## Reading -/

/-- The number of a run of ASCII digits. -/
def number? (cs : List Char) : Option Nat :=
  if !cs.isEmpty && cs.all Char.isDigit then
    some (cs.foldl (fun n c => 10 * n + (c.toNat - 48)) 0)
  else none

/-- The microseconds of a fraction of a second, of which six digits count. -/
def fraction? (cs : List Char) : Option Nat :=
  let digits := cs.take 6
  if cs.all Char.isDigit then (number? digits).map (· * Nat.pow 10 (6 - digits.length)) else none

/-- The microseconds of the seconds in a time of day, with a colon in front and perhaps a fraction. -/
def seconds? (cs : List Char) : Option Nat :=
  match cs with
  | [] => some 0
  | ':' :: rest =>
    match rest.drop 2 with
    | [] => (number? rest).map (· * 1000000)
    | '.' :: digits => do
      let whole ← number? (rest.take 2)
      let part ← fraction? digits
      return whole * 1000000 + part
    | _ => none
  | _ => none

/-- The microseconds of a time of day: hours and minutes, and perhaps seconds. -/
def timeOfDay? (cs : List Char) : Option Nat := do
  let hours ← number? (cs.take 2)
  let minutes ← if (cs.drop 2).head? = some ':' then number? ((cs.drop 3).take 2) else none
  let seconds ← seconds? (cs.drop 5)
  return (hours * 60 + minutes) * 60000000 + seconds

/-- The offset from universal time at the end of a time, which begins at a sign. -/
def offset? : List Char → Option Int
  | [] => some 0
  | ['Z'] => some 0
  | '+' :: rest => (timeOfDay? rest).map fun n => (n : Int)
  | '-' :: rest => (timeOfDay? rest).map fun n => -(n : Int)
  | _ => none

/-- The instant of a number of microseconds, if it is in the years from 1 to 9999. -/
def ofMicroseconds? (n : Int) : Option Instant :=
  if h : 0 ≤ n ∧ n.toNat < instantBound then some ⟨n.toNat, h.2⟩ else none

/-- Reads a date, a time of day and an offset. -/
def ofText? (s : String) : Option Instant := do
  let cs := s.toList
  let year ← number? (cs.take 4)
  let month ← number? ((cs.drop 5).take 2)
  let day ← number? ((cs.drop 8).take 2)
  let rest := cs.drop 11
  let time := rest.takeWhile fun c => c != '+' && c != '-' && c != 'Z'
  let timeOfDay ← timeOfDay? time
  let offset ← offset? (rest.drop time.length)
  ofMicroseconds? (dayOfDate year month day * microsecondsPerDay + timeOfDay - offset)

end Instant

end ValidatorReader.Log
