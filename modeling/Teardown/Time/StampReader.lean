import Teardown.Decimal.Power
import Teardown.Json.Reader
import Teardown.Time.Stamp

/-!
# Reading time stamps

The text of a stamp is a date, and after it, behind one character of any kind, perhaps a time of
day. The date is given by month and day or by week and weekday, which may be left out, with hyphens
between its parts or without. The time of day has an hour and perhaps a minute, a second and a
fraction, with colons or without, and perhaps an offset: `Z`, or a sign before what is written
like a time of day.

Where the date ends is decided by its first characters alone. Some texts are read that have no such
form: before an offset or a null character the last number of a time may be followed by one more
character.
-/

namespace Teardown.Stamp

namespace Reader

/-- A number of exactly `width` digits at the start of a text. -/
def digits? (width : Nat) (cs : List Char) : Option (Nat × List Char) :=
  let head := cs.take width
  if head.length = width ∧ head.all Char.isDigit then
    some (Json.Reader.natOfDigits head, cs.drop width)
  else none

/-- The text behind a hyphen, which is there if hyphens are in use. -/
def behindHyphen? (hyphens : Bool) (cs : List Char) : Option (List Char) :=
  if hyphens then
    match cs with
    | '-' :: rest => some rest
    | _ => none
  else some cs

/-! ### Dates -/

/-- How many characters the date at the start of a text has. -/
def dateLength (cs : List Char) : Nat :=
  if cs[4]? = some '-' then
    if cs[5]? = some 'W' then
      -- A hyphen behind the week is followed by a weekday, but two digits are an hour.
      if cs[8]? = some '-' ∧ !cs[10]?.any Char.isDigit then 10 else 8
    else 10
  else if cs[4]? = some 'W' then
    -- The numbers of a time have two digits, so that an odd number of digits goes on after the week.
    let run := ((cs.drop 7).takeWhile Char.isDigit).length
    if run < 2 then 7 + run else if run % 2 = 0 then 8 else 7
  else 8

/-- A day of the calendar by its year, month and day, in range or not. -/
abbrev Date := Nat × Nat × Nat

/-- The day with a week and a weekday in a year, if the year has such a week; the first week is the
one with the first Thursday. The weeks before year 1 have no month. -/
def ofWeek? (year week weekday : Nat) : Option Date :=
  let first := daysBeforeYear year % 7
  let weeks := if first = 3 ∨ (first = 2 ∧ isLeap year) then 53 else 52
  if week = 0 ∨ weeks < week ∨ weekday = 0 ∨ 7 < weekday then none
  else if year = 0 then some (1, 0, 1)
  else
    let monday := daysBeforeYear year + (if first ≤ 3 then 0 else 7) - first
    let days := monday + 7 * (week - 1) + (weekday - 1)
    let year :=
      if days < daysBeforeYear year then year - 1
      else if days < daysBeforeYear (year + 1) then year
      else year + 1
    some (year, monthAndDay year 12 1 (days - daysBeforeYear year))

/-- The date that a text writes, in range or not. -/
def date? (cs : List Char) : Option Date := do
  let (year, rest) ← digits? 4 cs
  let (hyphens, rest) := match rest with
    | '-' :: rest => (true, rest)
    | rest => (false, rest)
  match rest with
  | 'W' :: rest =>
    let (week, rest) ← digits? 2 rest
    if rest = [] then ofWeek? year week 1
    else
      let (weekday, rest) ← behindHyphen? hyphens rest >>= digits? 1
      if rest = [] then ofWeek? year week weekday else none
  | _ =>
    let (month, rest) ← digits? 2 rest
    let (day, rest) ← behindHyphen? hyphens rest >>= digits? 2
    if rest = [] then some (year, month, day) else none

/-! ### Times of day -/

/-- Whether nothing is read any more. -/
def ended : List Char → Bool
  | [] => true
  | c :: _ => c == '\x00'

/-- A fraction of a second in microseconds, of which further digits are dropped, and whether the text
ends with it. -/
def fraction? (cs : List Char) : Option (Nat × Bool) := do
  let width := min 6 cs.length
  let (n, rest) ← digits? width cs
  return (n * Decimal.tenTo (6 - width), ended (rest.dropWhile Char.isDigit))

/-- At most `left` numbers of two digits and a fraction in microseconds, and whether the text ends
with them. Whether colons are in use is known after the first number. -/
def numbers? : (left : Nat) → (colons : Option Bool) → List Char → Option (List Nat × Nat × Bool)
  | 0, _, cs => (fraction? cs).map ([], ·)
  | left + 1, colons, cs => do
    let (n, rest) ← digits? 2 cs
    match rest with
    | [] => return ([n], 0, true)
    | c :: rest =>
      let colons := colons.getD (c == ':')
      if rest = [] ∧ c.toNat < 128 then return ([n], 0, c == '\x00')
      let (ns, end_) ←
        if colons && c == ':' then numbers? left (some colons) rest
        else if c == '.' || c == ',' then (fraction? rest).map ([], ·)
        else if colons then none
        else numbers? left (some colons) (c :: rest)
      return (n :: ns, end_)

/-- The time that numbers write, in seconds. -/
def seconds (ns : List Nat) : Nat :=
  ns.getD 0 0 * 3600 + ns.getD 1 0 * 60 + ns.getD 2 0

/-- The offset that is written behind its mark, in microseconds. An offset of no seconds is none,
whatever its fraction. -/
def offset? (mark : Char) (cs : List Char) : Option Int :=
  if mark = 'Z' then (if ended cs then some 0 else none)
  else do
    let (ns, micros, whole) ← numbers? 3 none cs
    if !whole then none
    let offset : Int := seconds ns * 1000000 + micros
    return if seconds ns = 0 then 0 else if mark = '-' then -offset else offset

/-- Whether an offset starts with a character. -/
def marksOffset (c : Char) : Bool :=
  c == '+' || c == '-' || c == 'Z'

/-- The stamp of a day with the time of day that a text writes. -/
def withTime? (day : Date) (cs : List Char) : Option Stamp := do
  let (ns, micros, whole) ← numbers? 3 none (cs.takeWhile (!marksOffset ·))
  let offset ← match cs.dropWhile (!marksOffset ·) with
    | [] => if whole then some none else none
    | mark :: rest => (offset? mark rest).map some
  return ⟨day.1, day.2.1, day.2.2, ns.getD 0 0, ns.getD 1 0, ns.getD 2 0, micros, offset⟩

end Reader

open Reader

/-- The stamp that a text has the form of, in range or not. -/
def shape? (text : String) : Option Stamp := do
  let cs := text.toList
  let day ← date? (cs.take (dateLength cs))
  match cs.drop (dateLength cs) with
  | [] => return ⟨day.1, day.2.1, day.2.2, 0, 0, 0, 0, none⟩
  | _ :: rest => withTime? day rest

/-- Why a text is no stamp. -/
inductive Fault where
  | malformed
  | outside (part : Part)
deriving DecidableEq, Repr

/-- The stamp that a stored text writes. -/
def read (text : String) : Except Fault Stamp :=
  match shape? text with
  | none => .error .malformed
  | some stamp =>
    match stamp.misfit? with
    | some part => .error (.outside part)
    | none => .ok stamp

end Teardown.Stamp
