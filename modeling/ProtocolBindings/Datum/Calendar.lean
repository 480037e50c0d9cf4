import ProtocolBindings.Datum.Basic

/-!
# The calendar

Which dates there are, and how far apart they are.  Days are counted from the first day of the
year one on, and instants from its beginning in universal time.
-/

namespace ProtocolBindings.Calendar

/-- Whether a year has a day more. -/
def isLeapYear (year : Nat) : Bool :=
  year % 4 == 0 && (year % 100 != 0 || year % 400 == 0)

def daysIn (year month : Nat) : Nat :=
  if month == 2 then if isLeapYear year then 29 else 28
  else if month == 4 || month == 6 || month == 9 || month == 11 then 30
  else 31

def isDate (year month day : Nat) : Bool :=
  1 ≤ year && 1 ≤ month && month ≤ 12 && 1 ≤ day && day ≤ daysIn year month

def daysBefore (year month day : Nat) : Nat :=
  let past := year - 1
  let months := (List.range (month - 1)).foldl (fun days m => days + daysIn year (m + 1)) 0
  365 * past + past / 4 - past / 100 + past / 400 + months + (day - 1)

end ProtocolBindings.Calendar

namespace ProtocolBindings

/-- The instant of a time whose distance from universal time is known, in millionths of a
second. -/
def Timestamp.instant? (t : Timestamp) : Option Int :=
  t.offset.map fun offset =>
    let hours : Int := 24 * Calendar.daysBefore t.year t.month t.day + t.hour
    let minutes := 60 * hours + t.minute - offset
    1000000 * (60 * minutes + t.second) + t.microsecond

end ProtocolBindings
