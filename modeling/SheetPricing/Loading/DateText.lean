import SheetPricing.Decimal.Numeral
import SheetPricing.Text.Digit

/-!
# Dates in workbook files

A date, a time of day, both, or a span of time, as a text. Only the front of the text is looked at:
whatever follows the longest form of a date and a time, or else of a span, is left alone.
-/
namespace SheetPricing.Loading

/-- What a text means. -/
inductive DateKind where
  | day
  | time
  | moment
  | span
  deriving DecidableEq, Repr

/-- How a value of some kind is shown. -/
def DateKind.mark : DateKind → String
  | .day => "<date>"
  | .time => "<time>"
  | .moment => "<datetime>"
  | .span => "<timedelta>"

/-- Why a text means no date. -/
inductive DateFault where
  | unreadable
  /-- A span of too many days, which can still be counted. -/
  | tooManyDays (days : Nat)
  | uncountableDays
  | infinite
  deriving DecidableEq, Repr

/-- The most days of a span. -/
def mostDays : Nat := 999999999

def DateFault.message : DateFault → String
  | .unreadable => "Invalid datetime value"
  | .tooManyDays days => s!"days={days}; must have magnitude <= {mostDays}"
  | .uncountableDays => "Python int too large to convert to C int"
  | .infinite => "cannot convert float infinity to integer"

namespace DateText

/-- So many digits of any script in front of a text as a number, and the rest. -/
def digits? : (count : Nat) → (value : Nat) → List Char → Option (Nat × List Char)
  | 0, value, cs => some (value, cs)
  | _ + 1, _, [] => none
  | count + 1, value, c :: rest =>
    (Text.digitValue? c).bind fun digit => digits? count (10 * value + digit) rest

/-- What follows a character in front of a text. -/
def after? (c : Char) : List Char → Option (List Char)
  | [] => none
  | first :: rest => if first = c then some rest else none

/-- A text without a character in front of it, if it is there. -/
def skip (c : Char) (cs : List Char) : List Char := (after? c cs).getD cs

/-- Year, month and day in front of a text. -/
def day? (cs : List Char) : Option ((Nat × Nat × Nat) × List Char) := do
  let (year, cs) ← digits? 4 0 cs
  let (month, cs) ← digits? 2 0 (← after? '-' cs)
  let (day, cs) ← digits? 2 0 (← after? '-' cs)
  return ((year, month, day), cs)

/-- The seconds that may follow a minute. A fraction of them makes no difference. -/
def second? (cs : List Char) : Option Nat := do
  return (← digits? 2 0 (← after? ':' cs)).1

/-- Hour, minute and second in front of a text. -/
def time? (cs : List Char) : Option (Nat × Nat × Nat) := do
  let (hour, cs) ← digits? 2 0 cs
  let (minute, cs) ← digits? 2 0 (← after? ':' cs)
  return (hour, minute, (second? cs).getD 0)

def isLeapYear (year : Nat) : Bool := year % 4 == 0 && (year % 100 != 0 || year % 400 == 0)

def daysOf (year month : Nat) : Nat :=
  if month = 2 then if isLeapYear year then 29 else 28
  else if month = 4 ∨ month = 6 ∨ month = 9 ∨ month = 11 then 30
  else 31

/-- Whether there is such a day. -/
def isDay : Nat × Nat × Nat → Bool
  | (year, month, day) =>
    1 ≤ year && 1 ≤ month && month ≤ 12 && 1 ≤ day && day ≤ daysOf year month

/-- Whether there is such a time of day. -/
def isTime : Nat × Nat × Nat → Bool
  | (hour, minute, second) => hour < 24 && minute < 60 && second < 60

/-- A number of hours, minutes or seconds in front of a text, if its letter follows; otherwise the
text is left as it is. Up to three digits may follow a point where a fraction is allowed. -/
def amount? (letter : Char) (fraction : Bool) (cs : List Char) :
    Option (List Char) × List Char :=
  let whole := cs.takeWhile Text.isDigit
  let rest := cs.drop whole.length
  let places := (skip '.' rest).takeWhile Text.isDigit
  let hasFraction := fraction && rest.head? = some '.' && !places.isEmpty && places.length ≤ 3
  let number := if hasFraction then whole ++ '.' :: places else whole
  match whole, after? letter (cs.drop number.length) with
  | _ :: _, some after => (some number, after)
  | _, _ => (none, cs)

/-- The number that is written in an amount of time. -/
def number (amount : Option (List Char)) : Binary64 :=
  (amount.bind fun cs => Numeral.read? (String.ofList cs)).getD 0

/-- The days of so many hours, minutes and seconds. -/
def days? (hours minutes seconds : Binary64) : Option Nat := do
  let total := (← hours.units?) * 3600 + (← minutes.units?) * 60 + (← seconds.units?)
  return total.toNat / Binary64.unitsOfOne / 86400

/-- Days are counted below this number. -/
def countableDays : Nat := 2 ^ (31 : Nat)

/-- A span of time in front of a text. -/
def span (cs : List Char) : Except DateFault DateKind :=
  match (after? 'P' cs).bind (after? 'T') with
  | none => .error .unreadable
  | some cs =>
    let (hours, cs) := amount? 'H' false cs
    let (minutes, cs) := amount? 'M' false cs
    let (seconds, _) := amount? 'S' true cs
    if [hours, minutes, seconds].all Option.isNone then .error .unreadable
    else match days? (number hours) (number minutes) (number seconds) with
      | none => .error .infinite
      | some days =>
        if countableDays ≤ days then .error .uncountableDays
        else if mostDays < days then .error (.tooManyDays days)
        else .ok .span

/-- What a text means. -/
def kind (cs : List Char) : Except DateFault DateKind :=
  let day := day? cs
  let time := time? (skip 'T' ((day.map Prod.snd).getD cs))
  match day, time with
  | none, none => span cs
  | some (day, _), none => if isDay day then .ok .day else .error .unreadable
  | none, some time => if isTime time then .ok .time else .error .unreadable
  | some (day, _), some time =>
    if isDay day && isTime time then .ok .moment else .error .unreadable

end DateText
end SheetPricing.Loading
