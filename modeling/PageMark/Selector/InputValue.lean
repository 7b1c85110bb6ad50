import PageMark.Html.Token
import PageMark.Selector.Basic

/-!
# Values of inputs

Numbers, dates and times that an input can hold, and whether a value lies
between the least and the greatest one.  A text in another form is no value.
-/

namespace PageMark

/-- A moment has its largest unit first. -/
inductive InputValue where
  | number (value : Float)
  | moment (units : List Nat)

namespace InputValue

/-! ## Digits -/

def isNumeral (text : Text) : Bool :=
  !text.isEmpty && text.all Html.isAsciiDigit

def numeralOf (digits : Text) : Nat :=
  digits.foldl (fun value digit => 10 * value + (digit.toNat - '0'.toNat)) 0

/-- Digits of which there are two. -/
def pair? (text : Text) : Option Nat :=
  if isNumeral text && text.length == 2 then some (numeralOf text) else none

/-- A year has at least four digits and is not zero. -/
def year? (text : Text) : Option Nat :=
  if isNumeral text && 4 ≤ text.length && numeralOf text != 0 then some (numeralOf text)
  else none

def within? (least greatest : Nat) (value : Nat) : Option Nat :=
  if least ≤ value && value ≤ greatest then some value else none

/-! ## The calendar -/

def isLeap (year : Nat) : Bool :=
  (year % 4 == 0 && year % 100 != 0) || year % 400 == 0

def daysIn (year month : Nat) : Nat :=
  if month == 2 then if isLeap year then 29 else 28
  else if [4, 6, 9, 11].contains month then 30
  else 31

/-- The day of the week of the last day of a year, where Sunday is zero. -/
def lastWeekday (year : Nat) : Nat :=
  (year + year / 4 - year / 100 + year / 400) % 7

/-- A year whose last day is a Saturday, a Sunday, or a Friday without a leap day
before it, ends in its week 52; week 53 is allowed in any other. -/
def lastWeek (year : Nat) : Nat :=
  let weekday := lastWeekday year
  if weekday == 0 || weekday == 6 || (weekday == 5 && !isLeap year) then 52 else 53

/-- The number of a week; the weeks are known of years with four digits. -/
def week? (year : Nat) (number : Nat) : Except SelectorError (Option Nat) :=
  if year < 1000 || 10000 ≤ year then .error (.unknownYear year)
  else .ok (within? 1 (lastWeek year) number)

/-! ## Forms -/

def month? (text : Text) : Option (List Nat) :=
  match Text.parts '-' text with
  | [year, month] => do
      let year ← year? year
      let month ← (pair? month).bind (within? 1 12)
      some [year, month]
  | _ => none

def date? (text : Text) : Option (List Nat) :=
  match Text.parts '-' text with
  | [year, month, day] => do
      let year ← year? year
      let month ← (pair? month).bind (within? 1 12)
      let day ← (pair? day).bind (within? 1 (daysIn year month))
      some [year, month, day]
  | _ => none

def time? (text : Text) : Option (List Nat) :=
  match Text.parts ':' text with
  | [hour, minute] => do
      let hour ← (pair? hour).bind (within? 0 23)
      let minute ← (pair? minute).bind (within? 0 59)
      some [hour, minute]
  | _ => none

def dateTime? (text : Text) : Option (List Nat) :=
  match Text.parts 'T' text with
  | [date, time] => do
      let date ← date? date
      let time ← time? time
      some (date ++ time)
  | _ => none

def yearAndWeek? (text : Text) : Except SelectorError (Option (List Nat)) :=
  match Text.parts '-' text with
  | [year, 'W' :: week] =>
      match year? year, pair? week with
      | some year, some week => do
          return (← week? year week).map fun week => [year, week]
      | _, _ => .ok none
  | _ => .ok none

/-- Digits, perhaps with a point and more digits after it. -/
def decimal? (text : Text) : Option Float :=
  match Text.parts '.' text with
  | [whole] => if isNumeral whole then some (Float.ofNat (numeralOf whole)) else none
  | [whole, part] =>
      if whole.all Html.isAsciiDigit && isNumeral part then
        some (Float.ofScientific (numeralOf (whole ++ part)) true part.length)
      else none
  | _ => none

def number? : Text → Option Float
  | '-' :: rest => (decimal? rest).map fun value => -value
  | text => decimal? text

/-- The value that is written in an input of the given type; a line feed at the
end does not count. -/
def read (type written : Text) : Except SelectorError (Option InputValue) :=
  let text := Text.withoutFinalBreak written
  match String.ofList type with
  | "date" => .ok ((date? text).map moment)
  | "month" => .ok ((month? text).map moment)
  | "week" => (yearAndWeek? text).map fun units => units.map moment
  | "time" => .ok ((time? text).map moment)
  | "datetime-local" => .ok ((dateTime? text).map moment)
  | "number" => .ok ((number? text).map number)
  | "range" => .ok ((number? text).map number)
  | _ => .ok none

def readGiven (type : Text) : Option Text → Except SelectorError (Option InputValue)
  | none => .ok none
  | some written => read type written

/-! ## Ranges -/

def less : InputValue → InputValue → Bool
  | number left, number right => left < right
  | moment left, moment right => left < right
  | _, _ => false

def isBelow (value : InputValue) (least : Option InputValue) : Bool :=
  least.any fun least => value.less least

def isAbove (value : InputValue) (greatest : Option InputValue) : Bool :=
  greatest.any fun greatest => greatest.less value

/-- Times come again every day: if the least is later than the greatest, the
range goes over midnight. -/
def goesOverMidnight (type : Text) (least greatest : Option InputValue) : Bool :=
  type == "time".toList &&
    match least, greatest with
    | some least, some greatest => greatest.less least
    | _, _ => false

def isOutside (type : Text) (least greatest : Option InputValue) (value : InputValue) : Bool :=
  if goesOverMidnight type least greatest then value.isBelow least && value.isAbove greatest
  else value.isBelow least || value.isAbove greatest

end InputValue

end PageMark
