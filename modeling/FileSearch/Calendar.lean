/-!
# Calendar

The date and time of day of a number of seconds since the beginning of 1970, in the
calendar that has a leap year every fourth year but in three of four centuries. What the
clocks of a place show is told by a function from seconds to times, which need not be
one to one: an hour may come twice where they are put back.
-/

set_option autoImplicit false

namespace FileSearch

structure Calendar where
  year : Int
  month : Nat
  day : Nat
  hour : Nat
  minute : Nat
  second : Nat
  deriving DecidableEq, Repr

namespace Calendar

def isLeap (year : Int) : Bool := year % 4 = 0 && (year % 100 != 0 || year % 400 = 0)

def monthLength (year : Int) (month : Nat) : Nat :=
  if month = 2 then (if isLeap year then 29 else 28)
  else if month ∈ [4, 6, 9, 11] then 30
  else 31

def eraDays : Int := 146097
def centuryDays : Nat := 36524
def cycleDays : Nat := 1461
def yearDays : Nat := 365

def epochDays : Int := 719468

/-- The date of a day, counted from the beginning of 1970. Years are counted from the
first of March, so that a leap day is the last of its year. -/
def dateOf (day : Int) : Int × Nat × Nat :=
  let shifted := day + epochDays
  let era := shifted.fdiv eraDays
  let inEra := (shifted.fmod eraDays).toNat
  let century := min (inEra / centuryDays) 3
  let inCentury := inEra - century * centuryDays
  let cycle := inCentury / cycleDays
  let inCycle := inCentury - cycle * cycleDays
  let year := min (inCycle / yearDays) 3
  let inYear := inCycle - year * yearDays
  -- five months from March on have 153 days, and again from August on
  let month := (5 * inYear + 2) / 153
  let dayOfMonth := inYear - (153 * month + 2) / 5 + 1
  let march := 400 * era + (100 * century + 4 * cycle + year : Nat)
  if month < 10 then (march, month + 3, dayOfMonth) else (march + 1, month - 9, dayOfMonth)

def ofSeconds (seconds : Int) : Calendar :=
  let (year, month, day) := dateOf (seconds.fdiv 86400)
  let time := (seconds.fmod 86400).toNat
  ⟨year, month, day, time / 3600, time / 60 % 60, time % 60⟩

instance : Coe Int Calendar := ⟨ofSeconds⟩

def two (n : Nat) : String := if n < 10 then s!"0{n}" else toString n

def logStamp (c : Calendar) : String :=
  s!"{two c.month}-{two c.day} {two c.hour}:{two c.minute}:{two c.second}"

def logFileStamp (c : Calendar) : String :=
  two c.month ++ two c.day ++ two c.hour ++ two c.minute ++ two c.second

def resultStamp (c : Calendar) : String :=
  toString c.year ++ two c.month ++ two c.day ++ "_" ++ two c.hour ++ two c.minute ++ two c.second

end Calendar

end FileSearch
