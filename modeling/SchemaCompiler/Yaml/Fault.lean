import SchemaCompiler.Yaml.Problem

/-!
# Values that do not exist

A text can be well-formed and still name no value: a month after December, a character beyond the
last one, a word that is no truth value. Such faults carry no place.
-/

namespace SchemaCompiler.Yaml

/-- Why a written value does not exist. -/
inductive ValueFault where
  | noSuchCharacter (code : Nat)
  | notInteger (base : Nat) (text : String)
  | tooManyDigits (count : Nat)
  | notFloat (text : String)
  | floatTooLarge
  | emptyNumber
  | notBoolean (word : String)
  | notTimestamp
  | timestampNotText (type : String)
  | endlessDefault
  | yearOutOfRange (year : Nat)
  | monthOutOfRange
  | dayOutOfRange
  | hourOutOfRange
  | minuteOutOfRange
  | secondOutOfRange
  | offsetOutOfRange (minutes : Int)
  deriving DecidableEq, Repr

namespace ValueFault

/-- Is the fault that a text does not denote a value, rather than that it could not be looked
into? -/
def isAboutValue : ValueFault → Bool
  | noSuchCharacter code => code < 0x80000000
  | floatTooLarge | emptyNumber | notBoolean _ | notTimestamp | timestampNotText _ |
      endlessDefault => false
  | _ => true

/-- The most characters of a text that a message about integers shows. -/
def shownIntegerWidth : Nat := 200

/-- A number of minutes as a duration in whole days, from below, and seconds. -/
def duration (minutes : Int) : String :=
  let days := minutes.fdiv 1440
  let seconds := minutes.fmod 1440 * 60
  let parts :=
    (if days = 0 then [] else [s!"days={days}"]) ++
    (if seconds = 0 then [] else [s!"seconds={seconds}"])
  "datetime.timedelta(" ++ ", ".intercalate parts ++ ")"

/-- The wording of a fault. -/
def message : ValueFault → String
  | noSuchCharacter code =>
    if code < 0x80000000 then "chr() arg not in range(0x110000)"
    else "Python int too large to convert to C int"
  | notInteger base text =>
    s!"invalid literal for int() with base {base}: " ++
      String.ofList ((Text.quoted text).toList.take shownIntegerWidth)
  | tooManyDigits count =>
    s!"Exceeds the limit (4300 digits) for integer string conversion: value has {count} digits; " ++
      "use sys.set_int_max_str_digits() to increase the limit"
  | notFloat text => s!"could not convert string to float: {Text.quoted text}"
  | floatTooLarge => "int too large to convert to float"
  | emptyNumber => "string index out of range"
  | notBoolean word => Text.quoted word
  | notTimestamp => "'NoneType' object has no attribute 'groupdict'"
  | timestampNotText type => s!"expected string or bytes-like object, got '{type}'"
  | endlessDefault => "maximum recursion depth exceeded"
  | yearOutOfRange year => s!"year {year} is out of range"
  | monthOutOfRange => "month must be in 1..12"
  | dayOutOfRange => "day is out of range for month"
  | hourOutOfRange => "hour must be in 0..23"
  | minuteOutOfRange => "minute must be in 0..59"
  | secondOutOfRange => "second must be in 0..59"
  | offsetOutOfRange minutes =>
    "offset must be a timedelta strictly between -timedelta(hours=24) and timedelta(hours=24), " ++
      "not " ++ duration minutes ++ "."

end ValueFault

/-- Why reading a YAML text stops: a problem at a place, or a value that does not exist. -/
inductive Failure where
  | problem (problem : Problem)
  | value (fault : ValueFault)
  deriving DecidableEq, Repr

/-- Fail with a complaint about the place of a cursor or token. -/
def complain {α : Type} (complaint : Complaint) (mark : Mark) : Except Failure α :=
  .error (.problem { complaint, mark })

end SchemaCompiler.Yaml
