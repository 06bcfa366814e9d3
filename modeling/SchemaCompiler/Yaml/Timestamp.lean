import SchemaCompiler.Yaml.Tag

/-!
# Timestamps

A timestamp is a date, or a date and a time with an optional offset from universal time. Its parts
must exist in the calendar.
-/

namespace SchemaCompiler.Yaml

/-- A day of the calendar. -/
structure Date where
  year : Nat
  month : Nat
  day : Nat
  deriving DecidableEq, Repr

/-- A moment: a day, a time of day and the offset from universal time in minutes, if it is known. -/
structure Moment where
  date : Date
  hour : Nat
  minute : Nat
  second : Nat
  microsecond : Nat
  offset : Option Int
  deriving DecidableEq, Repr

/-- What a timestamp denotes. -/
inductive Timestamp where
  | date (date : Date)
  | moment (moment : Moment)
  deriving DecidableEq, Repr

/-- Does the year have a leap day? -/
def isLeapYear (year : Nat) : Bool := (year % 4 == 0 && year % 100 != 0) || year % 400 == 0

/-- The number of days of a month. -/
def daysIn (year month : Nat) : Nat :=
  if month == 2 then if isLeapYear year then 29 else 28
  else if [4, 6, 9, 11].contains month then 30
  else 31

/-- A day of the calendar, whose years are 1 to 9999. -/
def Date.make (year month day : Nat) : Except ValueFault Date :=
  if year == 0 || 9999 < year then .error (.yearOutOfRange year)
  else if month == 0 || 12 < month then .error .monthOutOfRange
  else if day == 0 || daysIn year month < day then .error .dayOutOfRange
  else .ok { year, month, day }

/-- The value of decimal digits. -/
def decimalValue (digits : List Char) : Nat := Number.ofDigits 10 (digits.filterMap Number.digitOf?)

/-- The number of microseconds that the digits of a fraction give. Further digits are dropped. -/
def microseconds (fraction : List Char) : Nat :=
  decimalValue (fraction.take 6 ++ List.replicate (6 - fraction.length) '0')

/-- The offset in minutes that a sign, hours and minutes give; it is less than a day. -/
def offsetMinutes (sign : Char) (hours minutes : List Char) : Except ValueFault Int :=
  let magnitude : Int := decimalValue hours * 60 + decimalValue minutes
  let offset := if sign == '-' then -magnitude else magnitude
  if magnitude < 1440 then .ok offset else .error (.offsetOutOfRange offset)

/-- The timestamp that parts give. -/
def Timestamp.ofParts (parts : Tag.TimestampParts) : Except ValueFault Timestamp :=
  let date := Date.make (decimalValue parts.year) (decimalValue parts.month)
    (decimalValue parts.day)
  match parts.time with
  | none => date.map .date
  | some (hour, minute, second, fraction) => do
    let offset ←
      match parts.offset with
      | some (sign, hours, minutes) => (offsetMinutes sign hours minutes).map some
      | none => pure (if parts.zone then some 0 else none)
    let date ← date
    let hour := decimalValue hour
    let minute := decimalValue minute
    let second := decimalValue second
    if 23 < hour then .error .hourOutOfRange
    else if 59 < minute then .error .minuteOutOfRange
    else if 59 < second then .error .secondOutOfRange
    else return .moment { date, hour, minute, second, microsecond := microseconds fraction, offset }

/-- The parts of a timestamp that is asked for by its tag: a date may then be written with single
digits also without a time. -/
def Timestamp.parts? (text : List Char) : Option Tag.TimestampParts :=
  let date := do
    let (year, rest) ← Tag.digits? 4 text
    let (month, rest) ← Tag.mark? '-' rest >>= Tag.shortNumber?
    let (day, rest) ← Tag.mark? '-' rest >>= Tag.shortNumber?
    if rest.isEmpty then some { year, month, day } else none
  date <|> Tag.timestampTime? text

/-- Read a timestamp. -/
def Timestamp.read (text : String) : Except ValueFault Timestamp :=
  match Timestamp.parts? (Tag.dropFinalBreak text.toList) with
  | some parts => Timestamp.ofParts parts
  | none => .error .notTimestamp

/-! ## Comparing -/

/-- The number of days from the start of the calendar to a day. -/
def Date.dayNumber (date : Date) : Nat :=
  let past := date.year - 1
  let months := (List.range (date.month - 1)).map fun month => daysIn date.year (month + 1)
  months.foldl Nat.add (past * 365 + past / 4 - past / 100 + past / 400) + date.day

/-- The microseconds from the start of the calendar to a moment, by its own clock. -/
def Moment.clock (moment : Moment) : Int :=
  (((moment.date.dayNumber * 24 + moment.hour) * 60 + moment.minute) * 60 + moment.second) *
    1000000 +
    moment.microsecond

/-- Are two moments equal? Those with an offset are if they are the same in universal time. One with
an offset never equals one without. -/
def Moment.sameAs (a b : Moment) : Bool :=
  match a.offset, b.offset with
  | none, none => a.clock == b.clock
  | some x, some y => a.clock - x * 60000000 == b.clock - y * 60000000
  | _, _ => false

/-! ## Texts -/

/-- A number with leading zeros. -/
def padded (width number : Nat) : String :=
  let digits := Nat.toDigits 10 number
  String.ofList (List.replicate (width - digits.length) '0' ++ digits)

/-- The text of a day. -/
def Date.text (date : Date) : String :=
  s!"{padded 4 date.year}-{padded 2 date.month}-{padded 2 date.day}"

/-- The text of an offset from universal time. -/
def offsetText (offset : Int) : String :=
  let minutes := offset.natAbs
  (if offset < 0 then "-" else "+") ++ s!"{padded 2 (minutes / 60)}:{padded 2 (minutes % 60)}"

/-- The text of a moment. Microseconds are left out if there are none. -/
def Moment.text (moment : Moment) : String :=
  moment.date.text ++
    s!" {padded 2 moment.hour}:{padded 2 moment.minute}:{padded 2 moment.second}" ++
    (if moment.microsecond = 0 then "" else s!".{padded 6 moment.microsecond}") ++
    (moment.offset.map offsetText).getD ""

end SchemaCompiler.Yaml
