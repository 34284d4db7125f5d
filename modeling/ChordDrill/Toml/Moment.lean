import ChordDrill.Text.Digit

/-!
# ChordDrill.Toml.Moment

The words that write dates and times.

* `isDate` — a date of the calendar.
* `isTime` — a time of day.
* `isZonedTime` — a time of day with an optional distance from universal time.
-/

namespace ChordDrill.Toml

def isLeapYear (year : Nat) : Bool := year % 4 == 0 && (year % 100 != 0 || year % 400 == 0)

def daysInMonth (year : Nat) : Nat → Nat
  | 2 => if isLeapYear year then 29 else 28
  | 4 | 6 | 9 | 11 => 30
  | _ => 31

/-- The characters after a date written at the front. -/
def date? (cs : List Char) : Option (List Char) :=
  match Text.fixedNumber? 10 4 cs with
  | some (year, '-' :: cs) =>
    match Text.fixedNumber? 10 2 cs with
    | some (month, '-' :: cs) =>
      match Text.fixedNumber? 10 2 cs with
      | some (day, rest) =>
        if 1 ≤ month ∧ month ≤ 12 ∧ 1 ≤ day ∧ day ≤ daysInMonth year month then some rest else none
      | none => none
    | _ => none
  | _ => none

/-- The characters after an hour and a minute written at the front. -/
def hourMinute? (cs : List Char) : Option (List Char) :=
  match Text.fixedNumber? 10 2 cs with
  | some (hour, ':' :: cs) =>
    match Text.fixedNumber? 10 2 cs with
    | some (minute, rest) => if hour ≤ 23 ∧ minute ≤ 59 then some rest else none
    | none => none
  | _ => none

/-- What follows the fraction of a second, which may be missing. -/
def skipFraction : List Char → List Char
  | '.' :: c :: cs => if c.isDigit then cs.dropWhile Char.isDigit else '.' :: c :: cs
  | cs => cs

/-- The characters after a time of day written at the front. A minute may have a leap second. -/
def time? (cs : List Char) : Option (List Char) :=
  match hourMinute? cs with
  | some (':' :: cs) =>
    match Text.fixedNumber? 10 2 cs with
    | some (second, rest) => if second ≤ 60 then some (skipFraction rest) else none
    | none => none
  | _ => none

/-- Whether a text is a distance from universal time, or nothing. -/
def isOffset : List Char → Bool
  | [] | ['Z'] | ['z'] => true
  | '+' :: cs | '-' :: cs => hourMinute? cs = some []
  | _ => false

def isDate (word : List Char) : Bool := date? word = some []

def isTime (word : List Char) : Bool := time? word = some []

def isZonedTime (word : List Char) : Bool :=
  match time? word with
  | some rest => isOffset rest
  | none => false

/-- Whether a word writes a date, a time, or both with a letter between them. -/
def isMoment (word : List Char) : Bool :=
  isTime word ||
  match date? word with
  | some [] => true
  | some (c :: rest) => (c == 'T' || c == 't') && isZonedTime rest
  | none => false

end ChordDrill.Toml
