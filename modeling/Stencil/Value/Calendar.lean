import Stencil.Text.Basic

/-!
# Dates and times

Calendar dates, times of day and the offset of a zone, with the texts in which they are shown. A
date-time is shown as its date, a blank and its time; a fraction of a second appears only when it is
not zero, and an offset only when the time has one.
-/

namespace Stencil

/-- A date of the proleptic Gregorian calendar. -/
structure Date where
  year : Nat
  month : Nat
  day : Nat
deriving DecidableEq, Repr, Inhabited

/-- A time of day to the microsecond. -/
structure Clock where
  hour : Nat
  minute : Nat
  second : Nat
  micro : Nat
deriving DecidableEq, Repr, Inhabited

/-- A zone's offset from universal time, in seconds. -/
structure Zone where
  seconds : Int
deriving DecidableEq, Repr, Inhabited

namespace Date

/-- Whether February has a twenty-ninth day. -/
def isLeap (year : Nat) : Bool := year % 4 = 0 && (year % 100 ≠ 0 || year % 400 = 0)

/-- The days of a month. -/
def daysIn (year month : Nat) : Nat :=
  if month = 2 then (if isLeap year then 29 else 28)
  else if month = 4 ∨ month = 6 ∨ month = 9 ∨ month = 11 then 30
  else 31

/-- The date, if the calendar has it. -/
def ofParts? (year month day : Nat) : Option Date :=
  if 1 ≤ year ∧ year ≤ 9999 ∧ 1 ≤ month ∧ month ≤ 12 ∧ 1 ≤ day ∧ day ≤ daysIn year month then
    some ⟨year, month, day⟩
  else none

/-- The date in figures, year first. -/
def shown (d : Date) : Text :=
  Text.zeroPadded 4 d.year ++ "-" ++ Text.zeroPadded 2 d.month ++ "-" ++ Text.zeroPadded 2 d.day

/-- The numbers that make the date up. -/
def fields (d : Date) : List Nat := [d.year, d.month, d.day]

/-- The number of the day, counted from before the first day of the first year. -/
def number (d : Date) : Nat :=
  let years := d.year - 1
  years * 365 + years / 4 - years / 100 + years / 400 +
    ((List.range (d.month - 1)).map fun m => daysIn d.year (m + 1)).foldl (· + ·) 0 + d.day

end Date

namespace Clock

/-- The time, if a day has it. -/
def ofParts? (hour minute second micro : Nat) : Option Clock :=
  if hour < 24 ∧ minute < 60 ∧ second < 60 ∧ micro < 1000000 then some ⟨hour, minute, second, micro⟩
  else none

/-- The time in figures. -/
def shown (c : Clock) : Text :=
  Text.zeroPadded 2 c.hour ++ ":" ++ Text.zeroPadded 2 c.minute ++ ":" ++
    Text.zeroPadded 2 c.second ++ (if c.micro = 0 then [] else '.' :: Text.zeroPadded 6 c.micro)

/-- The microseconds since the day began. -/
def sinceMidnight (c : Clock) : Nat :=
  ((c.hour * 60 + c.minute) * 60 + c.second) * 1000000 + c.micro

/-- The numbers that make the time up; seconds and microseconds are left off when they are zero. -/
def fields (c : Clock) : List Nat :=
  if c.micro ≠ 0 then [c.hour, c.minute, c.second, c.micro]
  else if c.second ≠ 0 then [c.hour, c.minute, c.second]
  else [c.hour, c.minute]

end Clock

namespace Zone

/-- Whether the zone is less than a day away from universal time. A time in any other cannot be shown. -/
def isProper (z : Zone) : Bool := z.seconds.natAbs < 24 * 3600

/-- The offset in figures, its sign first. -/
def shown (z : Zone) : Text :=
  let size := z.seconds.natAbs
  (if z.seconds < 0 then "-" else "+" : Text) ++ Text.zeroPadded 2 (size / 3600) ++ ":" ++
    Text.zeroPadded 2 (size / 60 % 60) ++
    (if size % 60 = 0 then [] else ':' :: Text.zeroPadded 2 (size % 60))

/-- The moment of a date and a time in the zone, in microseconds. -/
def moment (z : Zone) (d : Date) (c : Clock) : Int :=
  (d.number * 86400 - z.seconds) * 1000000 + c.sinceMidnight

end Zone

end Stencil
