/-!
Dates of the calendar with its leap years, times of day, and moments: a date with a time, which may
say how far its clock is ahead of universal time.
-/

namespace FactScope

structure Date where
  year : Nat
  month : Nat
  day : Nat
deriving DecidableEq, Repr

structure TimeOfDay where
  hour : Nat
  minute : Nat
  second : Nat
  micro : Nat
deriving DecidableEq, Repr

/-- A date with a time, and the minutes that its clock is ahead of universal time. -/
structure Moment where
  date : Date
  time : TimeOfDay
  ahead : Option Int
deriving DecidableEq, Repr

inductive CalendarFault where
  | year (n : Nat)
  | month
  | day
  | hour
  | minute
  | second
  | clock (ahead : Int)
deriving DecidableEq, Repr

namespace Calendar

def padded (width n : Nat) : String :=
  let digits := toString n
  String.ofList (List.replicate (width - digits.length) '0') ++ digits

def durationLiteral (minutes : Int) : String :=
  let days := minutes / 1440
  let seconds := minutes % 1440 * 60
  let parts := (if days = 0 then [] else ["days=" ++ toString days]) ++
    (if seconds = 0 then [] else ["seconds=" ++ toString seconds])
  "datetime.timedelta(" ++ (if parts.isEmpty then "0" else ", ".intercalate parts) ++ ")"

end Calendar

def CalendarFault.message : CalendarFault → String
  | year n => "year " ++ toString n ++ " is out of range"
  | month => "month must be in 1..12"
  | day => "day is out of range for month"
  | hour => "hour must be in 0..23"
  | minute => "minute must be in 0..59"
  | second => "second must be in 0..59"
  | clock ahead =>
      "offset must be a timedelta strictly between -timedelta(hours=24) and " ++
        "timedelta(hours=24), not " ++ Calendar.durationLiteral ahead ++ "."

namespace Date

/-- Every fourth year is a leap year, but of full centuries only every fourth. -/
def isLeap (year : Nat) : Bool :=
  year % 4 == 0 && (year % 100 != 0 || year % 400 == 0)

def daysIn (year month : Nat) : Nat :=
  if month = 2 then if isLeap year then 29 else 28
  else if [4, 6, 9, 11].contains month then 30
  else 31

def make (year month day : Nat) : Except CalendarFault Date :=
  if year = 0 ∨ 9999 < year then .error (.year year)
  else if month = 0 ∨ 12 < month then .error .month
  else if day = 0 ∨ daysIn year month < day then .error .day
  else .ok ⟨year, month, day⟩

def ordinal (d : Date) : Nat :=
  let before := d.year - 1
  let inYear := (List.range (d.month - 1)).foldl (fun days m => days + daysIn d.year (m + 1)) d.day
  before * 365 + before / 4 - before / 100 + before / 400 + inYear

def text (d : Date) : String :=
  Calendar.padded 4 d.year ++ "-" ++ Calendar.padded 2 d.month ++ "-" ++ Calendar.padded 2 d.day

def literal (d : Date) : String :=
  "datetime.date(" ++ toString d.year ++ ", " ++ toString d.month ++ ", " ++ toString d.day ++ ")"

theorem make_eq_ok_iff {year month day : Nat} {d : Date} :
    make year month day = .ok d ↔
      d = ⟨year, month, day⟩ ∧ 1 ≤ year ∧ year ≤ 9999 ∧ 1 ≤ month ∧ month ≤ 12 ∧ 1 ≤ day ∧
        day ≤ daysIn year month := by
  unfold make
  grind

end Date

namespace TimeOfDay

def make (hour minute second micro : Nat) : Except CalendarFault TimeOfDay :=
  if 23 < hour then .error .hour
  else if 59 < minute then .error .minute
  else if 59 < second then .error .second
  else .ok ⟨hour, minute, second, micro⟩

def text (t : TimeOfDay) : String :=
  Calendar.padded 2 t.hour ++ ":" ++ Calendar.padded 2 t.minute ++ ":" ++
    Calendar.padded 2 t.second ++ (if t.micro = 0 then "" else "." ++ Calendar.padded 6 t.micro)

end TimeOfDay

namespace Moment

/-- The moment of a clock less than a day off universal time, if the date and the time exist. -/
def make (date : Nat × Nat × Nat) (time : Nat × Nat × Nat × Nat) (ahead : Option Int) :
    Except CalendarFault Moment := do
  if let some minutes := ahead then
    if 1440 ≤ minutes.natAbs then throw (.clock minutes)
  let (year, month, day) := date
  let (hour, minute, second, micro) := time
  return ⟨← Date.make year month day, ← TimeOfDay.make hour minute second micro, ahead⟩

def elapsed (m : Moment) : Int :=
  let t := m.time
  ((((m.date.ordinal * 24 + t.hour) * 60 + t.minute) * 60 + t.second) * 1000000 + t.micro : Nat)

/-- Whether two moments are one: by universal time if both clocks are known, by the clock if both
are unknown. -/
def same (a b : Moment) : Bool :=
  match a.ahead, b.ahead with
  | none, none => a.elapsed == b.elapsed
  | some x, some y => a.elapsed - x * 60000000 == b.elapsed - y * 60000000
  | _, _ => false

def aheadText (minutes : Int) : String :=
  (if minutes < 0 then "-" else "+") ++ Calendar.padded 2 (minutes.natAbs / 60) ++ ":" ++
    Calendar.padded 2 (minutes.natAbs % 60)

def text (m : Moment) : String :=
  m.date.text ++ " " ++ m.time.text ++ (m.ahead.map aheadText).getD ""

def clockLiteral (minutes : Int) : String :=
  if minutes = 0 then "datetime.timezone.utc"
  else "datetime.timezone(" ++ Calendar.durationLiteral minutes ++ ")"

def literal (m : Moment) : String :=
  let t := m.time
  let fraction := if t.micro = 0 then [] else [t.micro]
  let seconds := if t.second = 0 ∧ t.micro = 0 then [] else [t.second]
  let numbers := [m.date.year, m.date.month, m.date.day, t.hour, t.minute] ++ seconds ++ fraction
  let clock := (m.ahead.map fun minutes => "tzinfo=" ++ clockLiteral minutes).toList
  "datetime.datetime(" ++ ", ".intercalate (numbers.map toString ++ clock) ++ ")"

end Moment

example : (Date.make 2000 2 29).toOption.map Date.text = some "2000-02-29" ∧
    (Date.make 1900 2 29).toOption = none := by decide +kernel

example : (Moment.make (2001, 12, 14) (21, 59, 43, 100000) (some (-300))).toOption.map
    (fun m => (m.text, m.literal)) =
    some ("2001-12-14 21:59:43.100000-05:00",
      "datetime.datetime(2001, 12, 14, 21, 59, 43, 100000, " ++
        "tzinfo=datetime.timezone(datetime.timedelta(days=-1, seconds=68400)))") := by
  decide +kernel

end FactScope
