import FileSearch.Calendar
import FileSearch.Yaml.Fault

/-!
# Times in settings texts

A date, or a date and a time of day with an optional offset from universal time. No
setting is a time, but a time that cannot be is refused.
-/

set_option autoImplicit false

namespace FileSearch.Yaml

structure DayTime where
  hour : Nat
  minute : Nat
  second : Nat
  offset : Option (Bool × Nat)
  deriving DecidableEq, Repr

structure Time where
  year : Nat
  month : Nat
  day : Nat
  /-- Month and day are written with two digits each. -/
  isFull : Bool
  dayTime : Option DayTime
  deriving DecidableEq, Repr

namespace Time

def digit (c : Char) : Nat := c.toNat - '0'.toNat

def digits? : Nat → Nat → List Char → Option (Nat × List Char)
  | 0, value, s => some (value, s)
  | n + 1, value, c :: s => if c.isDigit then digits? n (10 * value + digit c) s else none
  | _ + 1, _, [] => none

def upToTwo? (s : List Char) : Option (Nat × Bool × List Char) :=
  match digits? 2 0 s with
  | some (n, rest) => some (n, true, rest)
  | none => (digits? 1 0 s).map fun (n, rest) => (n, false, rest)

def after? (c : Char) : List Char → Option (List Char)
  | [] => none
  | d :: s => if c = d then some s else none

def isGap (c : Char) : Bool := c = ' ' || c = '\t'

def separator? : List Char → Option (List Char)
  | c :: s =>
    if c = 'T' ∨ c = 't' then some s
    else if isGap c then some (s.dropWhile isGap)
    else none
  | [] => none

def offset? : List Char → Option (Option (Bool × Nat))
  | [] => some none
  | s =>
    match s.dropWhile isGap with
    | ['Z'] => some (some (false, 0))
    | c :: rest =>
      if c = '+' ∨ c = '-' then
        match upToTwo? rest with
        | some (hours, _, []) => some (some (c = '-', 60 * hours))
        | some (hours, _, ':' :: rest) =>
          match digits? 2 0 rest with
          | some (minutes, []) => some (some (c = '-', 60 * hours + minutes))
          | _ => none
        | _ => none
      else none
    | [] => none

def dayTime? (s : List Char) : Option DayTime := do
  let (hour, _, s) ← upToTwo? s
  let (minute, s) ← digits? 2 0 (← after? ':' s)
  let (second, s) ← digits? 2 0 (← after? ':' s)
  let rest := ((after? '.' s).map (·.dropWhile Char.isDigit)).getD s
  let offset ← offset? rest
  some { hour, minute, second, offset }

def parse? (s : List Char) : Option Time := do
  let (year, s) ← digits? 4 0 s
  let (month, fullMonth, s) ← upToTwo? (← after? '-' s)
  let (day, fullDay, s) ← upToTwo? (← after? '-' s)
  let date : Time := { year, month, day, isFull := fullMonth && fullDay, dayTime := none }
  if s.isEmpty then some date
  else
    let dayTime ← dayTime? (← separator? s)
    some { date with dayTime := some dayTime }

def isPlain (s : List Char) : Bool :=
  match parse? s with
  | some t => t.isFull || t.dayTime.isSome
  | none => false

def minutesPerDay : Nat := 1440

def checkOffset (negative : Bool) (minutes : Nat) : Except BadValue Unit :=
  if minutes < minutesPerDay then .ok ()
  else
    let signed : Int := if negative then -minutes else minutes
    .error (.offset (signed.fdiv minutesPerDay) ((signed.fmod minutesPerDay).toNat * 60))

def checkDate (t : Time) : Except BadValue Unit :=
  if t.year = 0 then .error (.year 0)
  else if t.month < 1 ∨ 12 < t.month then .error .month
  else if t.day < 1 ∨ Calendar.monthLength t.year t.month < t.day then .error .day
  else .ok ()

def checkDayTime (d : DayTime) : Except BadValue Unit :=
  if 23 < d.hour then .error .hour
  else if 59 < d.minute then .error .minute
  else if 59 < d.second then .error .second
  else .ok ()

def check (t : Time) : Except BadValue Unit := do
  match t.dayTime with
  | none => checkDate t
  | some d =>
    match d.offset with
    | some (negative, minutes) => checkOffset negative minutes
    | none => .ok ()
    checkDate t
    checkDayTime d

end Time

end FileSearch.Yaml
