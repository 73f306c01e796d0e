/-!
# Dates

A moment is a number of seconds since the beginning of 1970, universal time, before it is
given a date in the Gregorian calendar.  Requests write dates in two forms: the compact
form of a signature and the form of an HTTP header.
-/

namespace ObjectStore

/-- A date and time of day, universal time.  The day of the week counts from Sunday. -/
structure Moment where
  year : Int
  month : Nat
  day : Nat
  hour : Nat
  minute : Nat
  second : Nat
  weekday : Nat
  deriving Repr, DecidableEq

namespace Moment

/-- Year, month and day of the `n`-th day after 1 January 1970.  Eras of 400 years begin on
1 March, so that the leap day is the last of its year. -/
def dateOfDay (n : Int) : Int × Nat × Nat :=
  let shifted := n + 719468
  let era := shifted / 146097
  let day := (shifted % 146097).toNat
  let year := (day - day / 1460 + day / 36524 - day / 146096) / 365
  let dayOfYear := day - (365 * year + year / 4 - year / 100)
  let march := (5 * dayOfYear + 2) / 153
  let month := if march < 10 then march + 3 else march - 9
  let number := (year : Int) + era * 400 + (if month ≤ 2 then 1 else 0)
  (number, month, dayOfYear - (153 * march + 2) / 5 + 1)

/-- The moment `s` seconds after the beginning of 1970. -/
def ofSeconds (s : Int) : Moment :=
  let n := s / 86400
  let r := (s % 86400).toNat
  let (year, month, day) := dateOfDay n
  { year, month, day, hour := r / 3600, minute := r / 60 % 60, second := r % 60,
    weekday := ((n + 4) % 7).toNat }

def padded (width n : Nat) : String :=
  let digits := Nat.toDigits 10 n
  String.ofList (List.replicate (width - digits.length) '0' ++ digits)

/-- Four digits; a year outside 0 to 9999 carries its sign. -/
def yearText (y : Int) : String :=
  if y < 0 then "-" ++ padded 4 y.natAbs
  else if 9999 < y then "+" ++ padded 4 y.natAbs
  else padded 4 y.natAbs

/-- The date of a signature's scope, such as `20240305`. -/
def dayStamp (m : Moment) : String :=
  yearText m.year ++ padded 2 m.month ++ padded 2 m.day

/-- The date and time of a signature, such as `20240305T070809Z`. -/
def secondStamp (m : Moment) : String :=
  dayStamp m ++ "T" ++ padded 2 m.hour ++ padded 2 m.minute ++ padded 2 m.second ++ "Z"

def weekdayNames : List String := ["Sun", "Mon", "Tue", "Wed", "Thu", "Fri", "Sat"]

def monthNames : List String :=
  ["Jan", "Feb", "Mar", "Apr", "May", "Jun", "Jul", "Aug", "Sep", "Oct", "Nov", "Dec"]

/-- The date of an HTTP header, such as `Tue, 05 Mar 2024 07:08:09 GMT`. -/
def httpDate (m : Moment) : String :=
  weekdayNames.getD m.weekday "" ++ ", " ++ padded 2 m.day ++ " " ++
    monthNames.getD (m.month - 1) "" ++ " " ++ yearText m.year ++ " " ++
    padded 2 m.hour ++ ":" ++ padded 2 m.minute ++ ":" ++ padded 2 m.second ++ " GMT"

end Moment

end ObjectStore
