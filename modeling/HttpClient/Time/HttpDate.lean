/-
# Dates in header fields

Three written forms are read: the fixed form `Sun, 06 Nov 1994 08:49:37 GMT`, the
older form with a two-digit year `Sunday, 06-Nov-94 08:49:37 GMT`, and the form
of the C library `Sun Nov  6 08:49:37 1994`.  A two-digit year below 70 belongs
to this century.  A date counts only if it exists: the day of the month is in the
month, the weekday is that of the date, and the year lies from 1970 to 9999.
-/
import HttpClient.Text.Blank
import HttpClient.Text.Decimal
import HttpClient.Time.Instant

namespace HttpClient

structure HttpDate where
  weekday : Nat
  day : Nat
  month : Nat
  year : Nat
  hour : Nat
  minute : Nat
  second : Nat
deriving DecidableEq, Repr

namespace HttpDate

open Text

/-- The short names of the weekdays, from Monday. -/
def shortDays : List String := ["Mon", "Tue", "Wed", "Thu", "Fri", "Sat", "Sun"]

/-- The names of the weekdays, from Monday. -/
def longDays : List String :=
  ["Monday", "Tuesday", "Wednesday", "Thursday", "Friday", "Saturday", "Sunday"]

def months : List String :=
  ["Jan", "Feb", "Mar", "Apr", "May", "Jun", "Jul", "Aug", "Sep", "Oct", "Nov", "Dec"]

/-- The place of a name in a list of names, counted from 0. -/
def place? (names : List String) (cs : List Char) : Option Nat :=
  names.findIdx? (·.toList = cs)

/-- The part of a text from one place up to another. -/
def slice (cs : List Char) (first last : Nat) : List Char := (cs.take last).drop first

def number? (cs : List Char) (first last : Nat) : Option Nat := digits? (slice cs first last)

/-- The time of day `08:49:37` at a place. -/
def clock? (cs : List Char) (first : Nat) : Option (Nat × Nat × Nat) := do
  let hour ← number? cs first (first + 2)
  guard (cs[first + 2]? = some ':')
  let minute ← number? cs (first + 3) (first + 5)
  guard (cs[first + 5]? = some ':')
  let second ← number? cs (first + 6) (first + 8)
  return (hour, minute, second)

/-- The fixed form: `Sun, 06 Nov 1994 08:49:37 GMT`. -/
def fixed? (cs : List Char) : Option HttpDate := do
  guard (cs.length = 29)
  let weekday ← place? (shortDays.map (· ++ ", ")) (slice cs 0 5)
  let day ← number? cs 5 7
  let month ← place? (months.map fun m => " " ++ m ++ " ") (slice cs 7 12)
  let year ← number? cs 12 16
  guard (cs[16]? = some ' ')
  let (hour, minute, second) ← clock? cs 17
  guard (slice cs 25 29 = " GMT".toList)
  return ⟨weekday, day, month + 1, year, hour, minute, second⟩

/-- The form with a two-digit year, behind the name of the weekday: `06-Nov-94 08:49:37 GMT`.
The character between the year and the time is not looked at. -/
def shortYear? (weekday : Nat) (cs : List Char) : Option HttpDate := do
  guard (cs.length = 22)
  let day ← number? cs 0 2
  let month ← place? (months.map fun m => "-" ++ m ++ "-") (slice cs 2 7)
  let year ← number? cs 7 9
  let (hour, minute, second) ← clock? cs 10
  guard (slice cs 18 22 = " GMT".toList)
  return ⟨weekday, day, month + 1, if year < 70 then 2000 + year else 1900 + year, hour, minute, second⟩

/-- The older form: `Sunday, 06-Nov-94 08:49:37 GMT`. -/
def older? (cs : List Char) : Option HttpDate := do
  let (name, rest) ← cutWord ", ".toList cs
  let weekday ← place? longDays name
  shortYear? weekday rest

/-- The form of the C library: `Sun Nov  6 08:49:37 1994`. -/
def plain? (cs : List Char) : Option HttpDate := do
  guard (cs.length = 24)
  let weekday ← place? (shortDays.map (· ++ " ")) (slice cs 0 4)
  let month ← place? (months.map (· ++ " ")) (slice cs 4 8)
  let day ← if cs[8]? = some ' ' then number? cs 9 10 else number? cs 8 10
  guard (cs[10]? = some ' ')
  let (hour, minute, second) ← clock? cs 11
  guard (cs[19]? = some ' ')
  let year ← number? cs 20 24
  return ⟨weekday, day, month + 1, year, hour, minute, second⟩

def isLeap (year : Nat) : Bool := year % 4 = 0 && (year % 100 ≠ 0 || year % 400 = 0)

def daysIn (year month : Nat) : Nat :=
  if month = 2 then (if isLeap year then 29 else 28)
  else if [4, 6, 9, 11].contains month then 30
  else 31

/-- Days from the start of 1970 to the start of a year from 1970 on. -/
def daysBefore (year : Nat) : Nat :=
  let y := year - 1
  365 * year + y / 4 - y / 100 + y / 400 - (365 * 1970 + 1969 / 4 - 1969 / 100 + 1969 / 400)

/-- Days from the start of 1970 to the date. -/
def days (d : HttpDate) : Nat :=
  (List.range (d.month - 1)).foldl (fun n m => n + daysIn d.year (m + 1)) (daysBefore d.year) +
    (d.day - 1)

/-- The date exists, and its weekday is the one given. The epoch was a Thursday. -/
def exists? (d : HttpDate) : Bool :=
  d.second < 60 && d.minute < 60 && d.hour < 24
    && 1970 ≤ d.year && d.year ≤ 9999
    && 1 ≤ d.month && d.month ≤ 12
    && 1 ≤ d.day && d.day ≤ daysIn d.year d.month
    && (d.days + 3) % 7 = d.weekday

def instant (d : HttpDate) : Instant :=
  .ofSeconds (((d.days * 24 + d.hour) * 60 + d.minute) * 60 + d.second : Nat) 0

/-- The instant that a text names in one of the three forms. -/
def parse? (cs : List Char) : Option Instant :=
  let text := trim cs
  if cs.all (·.toNat < 0x80) then
    (((fixed? text).orElse fun _ => (older? text).orElse fun _ => plain? text).filter exists?).map
      instant
  else none

end HttpDate

end HttpClient
