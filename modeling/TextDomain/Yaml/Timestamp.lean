import TextDomain.Yaml.Cursor

/-!
# Dates and moments

A timestamp is a date, or a date with a time of day and perhaps the distance
from universal time. Two moments with known distances are the same if they
happen at once.
-/

namespace TextDomain.Yaml

/-- A day of the Gregorian calendar. -/
structure Date where
  /-- The year, from 1 to 9999. -/
  year : Nat
  /-- The month. -/
  month : Nat
  /-- The day of the month. -/
  day : Nat
deriving DecidableEq

/-- A time on a day. -/
structure Moment where
  /-- The day. -/
  date : Date
  /-- The hour. -/
  hour : Nat
  /-- The minute. -/
  minute : Nat
  /-- The second. -/
  second : Nat
  /-- The millionths of a second. -/
  microsecond : Nat
  /-- How many minutes the clock is ahead of universal time, if that is known. -/
  offset : Option Int
deriving DecidableEq

namespace Date

/-- Whether a year has a 29 February. -/
def isLeap (year : Nat) : Bool := year % 4 == 0 && (year % 100 != 0 || year % 400 == 0)

/-- The number of days of a month. -/
def daysIn (year month : Nat) : Nat :=
  if month = 2 then (if isLeap year then 29 else 28)
  else if month = 4 ∨ month = 6 ∨ month = 9 ∨ month = 11 then 30
  else 31

/-- Whether the calendar has the date. -/
def exists_ (d : Date) : Bool :=
  decide (1 ≤ d.year ∧ 1 ≤ d.month ∧ d.month ≤ 12 ∧ 1 ≤ d.day ∧ d.day ≤ daysIn d.year d.month)

/-- The number of days from the beginning of year 1. -/
def ordinal (d : Date) : Nat :=
  let y := d.year - 1
  let before := 365 * y + y / 4 - y / 100 + y / 400
  (List.range (d.month - 1)).foldl (fun days m => days + daysIn d.year (m + 1)) before + d.day

/-- The date with four, two and two digits. -/
def text (d : Date) : Text :=
  Text.ofNatPadded 4 d.year ++ '-' :: Text.ofNatPadded 2 d.month ++
    '-' :: Text.ofNatPadded 2 d.day

end Date

namespace Moment

/-- Whether the day and the clock have the moment, and the distance is less
than a day. -/
def exists_ (m : Moment) : Bool :=
  m.date.exists_ && decide (m.hour < 24 ∧ m.minute < 60 ∧ m.second < 60) &&
    (match m.offset with
     | some o => decide (o.natAbs < 1440)
     | none => true)

/-- The millionths of a second from the beginning of year 1. -/
def instant (m : Moment) (offset : Int) : Int :=
  ((((m.date.ordinal : Int) * 1440 + m.hour * 60 + m.minute - offset) * 60 + m.second) * 1000000) +
    m.microsecond

/-- Whether two moments are the same. -/
def same (m n : Moment) : Bool :=
  match m.offset, n.offset with
  | some o, some p => m.instant o == n.instant p
  | none, none => m.instant 0 == n.instant 0
  | _, _ => false

/-- The moment in the order of its parts; millionths only if there are any. -/
def text (m : Moment) : Text :=
  let fraction := if m.microsecond = 0 then [] else '.' :: Text.ofNatPadded 6 m.microsecond
  let zone := match m.offset with
    | none => []
    | some o => (if o < 0 then '-' else '+') :: Text.ofNatPadded 2 (o.natAbs / 60) ++
        ':' :: Text.ofNatPadded 2 (o.natAbs % 60)
  m.date.text ++ ' ' :: Text.ofNatPadded 2 m.hour ++ ':' :: Text.ofNatPadded 2 m.minute ++
    ':' :: Text.ofNatPadded 2 m.second ++ fraction ++ zone

end Moment

/-! ## Reading -/

/-- A timestamp as written; it need not exist. -/
inductive Timestamp where
  /-- A date alone. -/
  | date (d : Date)
  /-- A date with a time. -/
  | moment (m : Moment)
deriving DecidableEq

namespace Timestamp

/-- A number of at least `least` and at most `most` digits at the beginning. -/
def digits? (least most : Nat) (t : Text) : Option (Nat × Text) :=
  let d := (t.take most).takeWhile Char.isDigit
  if least ≤ d.length then (Text.toNat? 10 d).map (·, t.drop d.length) else none

/-- What follows a character at the beginning. -/
def after? (c : Char) : Text → Option Text
  | [] => none
  | x :: rest => if x = c then some rest else none

/-- The distance from universal time, which ends the text. -/
def offset? (t : Text) : Option (Option Int) :=
  match t.dropWhile isBlank with
  | [] => if t.isEmpty then some none else none
  | ['Z'] => some (some 0)
  | sign :: rest =>
    if sign = '+' ∨ sign = '-' then do
      let (hours, rest) ← digits? 1 2 rest
      let minutes ← match rest with
        | [] => some 0
        | _ => do
          let (minutes, rest) ← digits? 2 2 (← after? ':' rest)
          if rest.isEmpty then some minutes else none
      let distance : Int := (hours * 60 + minutes : Nat)
      some (some (if sign = '-' then -distance else distance))
    else none

/-- The digits after the point, to the millionth. -/
def microseconds (digits : Text) : Nat :=
  let d := digits.take 6
  (Text.toNat? 10 (d ++ List.replicate (6 - d.length) '0')).getD 0

/-- The time of day, which ends the text. -/
def moment? (d : Date) (t : Text) : Option Moment := do
  let (hour, t) ← digits? 1 2 t
  let (minute, t) ← digits? 2 2 (← after? ':' t)
  let (second, t) ← digits? 2 2 (← after? ':' t)
  let (fraction, t) := match t with
    | '.' :: rest => (rest.takeWhile Char.isDigit, rest.dropWhile Char.isDigit)
    | _ => ([], t)
  some ⟨d, hour, minute, second, microseconds fraction, ← offset? t⟩

/-- Reads a timestamp. -/
def read? (t : Text) : Option Timestamp := do
  let (year, t) ← digits? 4 4 t
  let (month, t) ← digits? 1 2 (← after? '-' t)
  let (day, t) ← digits? 1 2 (← after? '-' t)
  match t with
  | [] => some (.date ⟨year, month, day⟩)
  | c :: rest =>
    if c = 'T' ∨ c = 't' then .moment <$> moment? ⟨year, month, day⟩ rest
    else if isBlank c then .moment <$> moment? ⟨year, month, day⟩ (rest.dropWhile isBlank)
    else none

/-- Whether an untagged text is a timestamp: without a time, month and day
have two digits each. -/
def isTimestamp (t : Text) : Bool :=
  match read? t with
  | some (.date _) => t.length == 10
  | some (.moment _) => true
  | none => false

end Timestamp

end TextDomain.Yaml
