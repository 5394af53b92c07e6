/-!
# Time stamps

A stamp is a date and a time of day to the microsecond, perhaps with its distance from universal
time. An answer writes it with a `T` between date and time, and the fraction only when it is not
zero.
-/

namespace Teardown

/-- A date with a time of day. -/
structure Stamp where
  year : Nat
  month : Nat
  day : Nat
  hour : Nat
  minute : Nat
  second : Nat
  micros : Nat
  /-- The microseconds that the time of day is ahead of universal time, if that is known. -/
  offset : Option Int
deriving DecidableEq, Repr

namespace Stamp

/-- The decimal text of a number, filled with zeros to a width. -/
def padded (width n : Nat) : String :=
  let digits := Nat.repr n
  String.ofList (List.replicate (width - digits.length) '0') ++ digits

/-- The fraction of a second in an answer. -/
def fractionText (micros : Nat) : String :=
  if micros = 0 then "" else "." ++ padded 6 micros

/-- The offset in an answer, with seconds and a fraction only when they are not zero. -/
def offsetText (offset : Int) : String :=
  let micros := offset.natAbs % 1000000
  let seconds := offset.natAbs / 1000000
  (if offset < 0 then "-" else "+") ++ padded 2 (seconds / 3600) ++ ":" ++
    padded 2 (seconds / 60 % 60) ++
    (if seconds % 60 = 0 ∧ micros = 0 then ""
      else ":" ++ padded 2 (seconds % 60) ++ fractionText micros)

/-- The stamp in an answer. -/
def iso (s : Stamp) : String :=
  padded 4 s.year ++ "-" ++ padded 2 s.month ++ "-" ++ padded 2 s.day ++ "T" ++
    padded 2 s.hour ++ ":" ++ padded 2 s.minute ++ ":" ++ padded 2 s.second ++
    fractionText s.micros ++ (s.offset.map offsetText).getD ""

/-- The stamp in a row, to the second. -/
def stored (s : Stamp) : String :=
  String.ofList ({ s with micros := 0 }.iso.toList.map fun c => if c = 'T' then ' ' else c)

/-- Whether a year has a 29th of February. -/
def isLeap (year : Nat) : Bool :=
  year % 4 == 0 && (year % 100 != 0 || year % 400 == 0)

/-- The number of days of a month. -/
def daysIn (year month : Nat) : Nat :=
  if month = 2 then (if isLeap year then 29 else 28)
  else if month = 4 ∨ month = 6 ∨ month = 9 ∨ month = 11 then 30
  else 31

/-- The number of microseconds of a day. -/
def dayLength : Int := 86400000000

/-- The parts of a stamp that have a range, the first and the last with the value that is outside
it. -/
inductive Part where
  | year (value : Nat)
  | month
  | day
  | hour
  | minute
  | second
  | offset (value : Int)
deriving DecidableEq, Repr

/-- A span of time in a message, in days, seconds and microseconds. -/
def spanText (micros : Int) : String :=
  let rest := (Int.fmod micros dayLength).toNat
  let part (name : String) (n : Int) : List String :=
    if n = 0 then [] else [name ++ "=" ++ toString n]
  "datetime.timedelta(" ++ ", ".intercalate (part "days" (Int.fdiv micros dayLength) ++
    part "seconds" (rest / 1000000 : Nat) ++ part "microseconds" (rest % 1000000 : Nat)) ++ ")"

/-- What is said of a part that is outside its range. -/
def Part.rule : Part → String
  | .year value => "year " ++ toString value ++ " is out of range"
  | .month => "month must be in 1..12"
  | .day => "day is out of range for month"
  | .hour => "hour must be in 0..23"
  | .minute => "minute must be in 0..59"
  | .second => "second must be in 0..59"
  | .offset value =>
    "offset must be a timedelta strictly between -timedelta(hours=24) and timedelta(hours=24), not " ++
      spanText value ++ "."

/-- The offset, if it is outside its range. -/
def misplaced? (s : Stamp) : Option Part :=
  match s.offset with
  | some offset =>
    if offset ≤ -dayLength ∨ dayLength ≤ offset then some (.offset offset) else none
  | none => none

/-- The first part that is outside its range, if the stamp names no day of the calendar or no
time of day. -/
def misfit? (s : Stamp) : Option Part :=
  if s.misplaced?.isSome then s.misplaced?
  else if s.year = 0 ∨ 9999 < s.year then some (.year s.year)
  else if s.month = 0 ∨ 12 < s.month then some .month
  else if s.day = 0 ∨ daysIn s.year s.month < s.day then some .day
  else if 24 ≤ s.hour then some .hour
  else if 60 ≤ s.minute then some .minute
  else if 60 ≤ s.second then some .second
  else none

/-- The number of days from year 1 to the start of a year. -/
def daysBeforeYear (year : Nat) : Nat :=
  let y := year - 1
  365 * y + y / 4 - y / 100 + y / 400

/-- Splits a number of days into month and day, starting from `month`. -/
def monthAndDay (year : Nat) : Nat → Nat → Nat → Nat × Nat
  | 0, month, days => (month, days + 1)
  | fuel + 1, month, days =>
    if days < daysIn year month then (month, days + 1)
    else monthAndDay year fuel (month + 1) (days - daysIn year month)

/-- The stamp that lies some microseconds after the start of 1970, in universal time; moments
before the year 1 or after the year 9999 have none. -/
def ofMicros? (micros : Int) : Option Stamp :=
  let days : Int := 719162 + Int.fdiv micros dayLength
  let rest := (Int.fmod micros dayLength).toNat
  if days < 0 ∨ (daysBeforeYear 10000 : Int) ≤ days then none
  else
    let days := days.toNat
    let guess := days / 366 + 1
    let passed := (List.range 30).filter fun k => daysBeforeYear (guess + k) ≤ days
    let year := guess + passed.length - 1
    let (month, day) := monthAndDay year 12 1 (days - daysBeforeYear year)
    some ⟨year, month, day, rest / 3600000000, rest / 60000000 % 60, rest / 1000000 % 60,
      rest % 1000000, none⟩

end Stamp

end Teardown
