import MimeMail.Date.Calendar

/-!
Instants, counted in seconds from the start of 1970 in universal time. A leap second belongs to the
second before it, of which it is a second thousand million of nanoseconds.
-/

namespace MimeMail

structure Instant where
  secs : Int := 0
  nanos : Nat := 0
  deriving DecidableEq

structure Clock where
  hour : Nat
  minute : Nat
  second : Nat := 0
  deriving DecidableEq

def Clock.isValid (clock : Clock) : Bool :=
  clock.hour < 24 && clock.minute < 60 && clock.second ≤ 60

namespace Instant

def epoch : Instant := {}

def isAfter (x y : Instant) : Bool := y.secs < x.secs || (y.secs == x.secs && y.nanos < x.nanos)

def secondsPerDay : Int := 86400

def firstYear : Int := -262143

def lastYear : Int := 262142

def isYear (year : Int) : Bool := firstYear ≤ year && year ≤ lastYear

def ofCivil? (date : Date) (clock : Clock) (offset : Int) : Option Instant :=
  if date.isValid && isYear date.year && clock.isValid then
    let second := min clock.second 59
    let secs := date.dayNumber * secondsPerDay +
      ((clock.hour * 60 + clock.minute) * 60 + second : Nat) - offset
    if isYear (Date.ofDayNumber (secs / secondsPerDay)).year then
      some ⟨secs, if clock.second == 60 then 1000000000 else 0⟩
    else none
  else none

def date (x : Instant) : Date := Date.ofDayNumber (x.secs / secondsPerDay)

def clock (x : Instant) : Clock :=
  let s := (x.secs % secondsPerDay).toNat
  ⟨s / 3600, s / 60 % 60, s % 60 + x.nanos / 1000000000⟩

def yearText (year : Int) : Text :=
  if 0 ≤ year && year ≤ 9999 then Digits.padded 4 year.toNat
  else (if year < 0 then '-' else '+') :: Digits.padded 4 year.natAbs

def headerText (x : Instant) : Text :=
  let weekday := Date.weekday (x.secs / secondsPerDay)
  (Date.weekdayNames.getD weekday "").toList ++ ", ".toList ++
    Digits.padded 2 x.date.day ++ ' ' :: (Date.monthNames.getD (x.date.month - 1) "").toList ++
    ' ' :: yearText x.date.year ++
    ' ' :: Digits.padded 2 x.clock.hour ++ ':' :: Digits.padded 2 x.clock.minute ++
    ':' :: Digits.padded 2 x.clock.second ++ " +0000".toList

def dateText (x : Instant) : Text :=
  yearText x.date.year ++ '-' :: Digits.padded 2 x.date.month ++ '-' :: Digits.padded 2 x.date.day

def minuteText (x : Instant) : Text :=
  x.dateText ++ ' ' :: Digits.padded 2 x.clock.hour ++ ':' :: Digits.padded 2 x.clock.minute

def fractionText (nanos : Nat) : Text :=
  if nanos == 0 then []
  else if nanos % 1000000 == 0 then '.' :: Digits.padded 3 (nanos / 1000000)
  else if nanos % 1000 == 0 then '.' :: Digits.padded 6 (nanos / 1000)
  else '.' :: Digits.padded 9 nanos

def timestamp (x : Instant) : Text :=
  x.dateText ++ 'T' :: Digits.padded 2 x.clock.hour ++ ':' :: Digits.padded 2 x.clock.minute ++
    ':' :: Digits.padded 2 x.clock.second ++ fractionText (x.nanos % 1000000000) ++ ['Z']

end Instant

end MimeMail
