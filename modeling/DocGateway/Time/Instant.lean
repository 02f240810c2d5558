import DocGateway.Text.Scan
/-!
# Instants and their RFC 3339 text

An instant is a count of milliseconds since the start of 1970 in UTC. `toText` writes it without
trailing zeros in its fraction; `parse?` reads a date and a time with an offset. Days are counted
with years that begin in March, so that the leap day is the last of its year.
-/

namespace DocGateway.Instant

/-- A day of the proleptic Gregorian calendar. -/
structure Date where
  year : Int
  month : Nat
  day : Nat
deriving DecidableEq, Repr

/-- Days from the start of 1970 to a date. -/
def Date.toDays (d : Date) : Int :=
  let year := if d.month ≤ 2 then d.year - 1 else d.year
  let era := year / 400
  let yearOfEra := year % 400
  let dayOfYear : Int := (153 * ((d.month + 9) % 12) + 2) / 5 + d.day - 1
  let dayOfEra := yearOfEra * 365 + yearOfEra / 4 - yearOfEra / 100 + dayOfYear
  era * 146097 + dayOfEra - 719468

/-- The date that lies some days after the start of 1970. -/
def Date.ofDays (days : Int) : Date :=
  let shifted := days + 719468
  let era := shifted / 146097
  let dayOfEra := (shifted % 146097).toNat
  let yearOfEra := (dayOfEra - dayOfEra / 1460 + dayOfEra / 36524 - dayOfEra / 146096) / 365
  let dayOfYear := dayOfEra - (365 * yearOfEra + yearOfEra / 4 - yearOfEra / 100)
  let monthFromMarch := (5 * dayOfYear + 2) / 153
  let day := dayOfYear - (153 * monthFromMarch + 2) / 5 + 1
  let month := if monthFromMarch < 10 then monthFromMarch + 3 else monthFromMarch - 9
  ⟨era * 400 + yearOfEra + (if month ≤ 2 then 1 else 0), month, day⟩

def isLeapYear (year : Int) : Bool := year % 4 = 0 ∧ (year % 100 ≠ 0 ∨ year % 400 = 0)

/-- The number of days of a month. -/
def daysInMonth (year : Int) (month : Nat) : Nat :=
  if month = 2 then (if isLeapYear year then 29 else 28)
  else if month = 4 ∨ month = 6 ∨ month = 9 ∨ month = 11 then 30
  else 31

/-- A number in at least `width` decimal digits. -/
def padded (width n : Nat) : List Char :=
  let digits := Nat.toDigits 10 n
  List.replicate (width - digits.length) '0' ++ digits

/-- The text of an instant from the year 0 on, in UTC. -/
def toText (ms : Int) : String :=
  let date := Date.ofDays (ms / 86400000)
  let time := (ms % 86400000).toNat
  let second := time / 1000
  let fraction := (padded 3 (time % 1000)).reverse.dropWhile (· = '0')
  String.ofList (padded 4 date.year.toNat ++ '-' :: padded 2 date.month ++ '-' :: padded 2 date.day
    ++ 'T' :: padded 2 (second / 3600) ++ ':' :: padded 2 (second / 60 % 60)
    ++ ':' :: padded 2 (second % 60)
    ++ (if fraction.isEmpty then [] else '.' :: fraction.reverse) ++ ['Z'])

/-! ### Reading -/

/-- Exactly `n` decimal digits. -/
def digits (n : Nat) : Scan Nat := fun cs =>
  let head := cs.take n
  if head.length = n ∧ head.all Char.isDigit then
    some (head.foldl (fun v c => 10 * v + (c.toNat - 48)) 0, cs.drop n)
  else none

/-- The nanoseconds of an optional fraction; digits past the ninth are read and dropped. -/
def nanoseconds : Scan Nat
  | '.' :: cs =>
    let ds := cs.takeWhile Char.isDigit
    if ds.isEmpty then none
    else
      let kept := ds.take 9
      let value := kept.foldl (fun v c => 10 * v + (c.toNat - 48)) 0
      some (value * Nat.pow 10 (9 - kept.length), cs.dropWhile Char.isDigit)
  | cs => some (0, cs)

/-- The seconds that local time is ahead of UTC. -/
def offset : Scan Int := do
  let sign ← Scan.oneOf ['Z', 'z', '+', '-']
  if sign = 'Z' ∨ sign = 'z' then pure 0
  else
    let hours ← digits 2
    let _ ← Scan.oneOf [':']
    let minutes ← digits 2
    if hours ≤ 23 ∧ minutes ≤ 59 then
      let seconds : Int := hours * 3600 + minutes * 60
      pure (if sign = '-' then -seconds else seconds)
    else failure

/-- Any one ASCII character: between date and time many are in use. -/
def separator : Scan Unit
  | c :: cs => if c.toNat < 128 then some ((), cs) else none
  | [] => none

/-- Whether a count of seconds is the last one of a month, where a leap second may follow. -/
def endsMonth (utc : Int) : Bool :=
  let date := Date.ofDays (utc / 86400)
  date.day = daysInMonth date.year date.month ∧ utc % 86400 = 86399

/-- Reads a date, a separator, a time and an offset. Second 60 is taken at the end of a month in UTC
only, as the last nanosecond of second 59. What is left of a millisecond is cut toward 1970. -/
def scan : Scan Int := do
  let year ← digits 4
  let _ ← Scan.oneOf ['-']
  let month ← digits 2
  let _ ← Scan.oneOf ['-']
  let day ← digits 2
  separator
  let hour ← digits 2
  let _ ← Scan.oneOf [':']
  let minute ← digits 2
  let _ ← Scan.oneOf [':']
  let second ← digits 2
  let nanos ← nanoseconds
  let ahead ← offset
  if month = 0 ∨ 12 < month ∨ day = 0 ∨ daysInMonth year month < day then failure
  if 23 < hour ∨ 59 < minute ∨ 60 < second then failure
  let kept := min second 59
  let utc :=
    Date.toDays ⟨year, month, day⟩ * 86400 + (hour * 3600 + minute * 60 + kept : Nat) - ahead
  if second = 60 ∧ ¬ endsMonth utc then failure
  pure ((utc * 1000000000 + (if second = 60 then 999999999 else nanos : Nat)).tdiv 1000000)

/-- The instant that a text names. -/
def parse? (s : String) : Option Int := scan.all? s

end DocGateway.Instant
