import SchemaCompiler.Number.Decimal
import SchemaCompiler.Number.Shortest
import SchemaCompiler.Yaml.Timestamp

/-!
# Values

Settings are read from data of any shape, and options keep whatever value they are given. A value
has a text and a form inside other values; both are missing when an integer in it has too many
digits to be shown.
-/

namespace SchemaCompiler.Data

/-- A value of any shape. The entries of a dictionary have distinct keys, in the order in which the
keys first came. -/
inductive Value where
  | null
  | bool (value : Bool)
  | int (value : Int)
  | float (value : Binary64)
  | text (value : String)
  | date (value : Yaml.Date)
  | moment (value : Yaml.Moment)
  | bytes (value : List UInt8)
  | list (items : List Value)
  | tuple (items : List Value)
  | set (items : List Value)
  | dict (entries : List (Value × Value))
  deriving Repr, Inhabited

namespace Value

/-- The name of a value's type in messages. -/
def typeName : Value → String
  | null => "NoneType"
  | bool _ => "bool"
  | int _ => "int"
  | float _ => "float"
  | text _ => "str"
  | date _ => "date"
  | moment _ => "datetime"
  | bytes _ => "bytes"
  | list _ => "list"
  | tuple _ => "tuple"
  | set _ => "set"
  | dict _ => "dict"

/-- The name of a value's type with the place where it is defined. -/
def fullTypeName : Value → String
  | date _ => "datetime.date"
  | moment _ => "datetime.datetime"
  | value => value.typeName

/-- Does the value count as true? Zero, null and everything empty do not. -/
def isTrue : Value → Bool
  | null => false
  | bool value => value
  | int value => value != 0
  | float value => !value.isZero
  | text value => !value.isEmpty
  | date _ | moment _ => true
  | bytes value => !value.isEmpty
  | list items | tuple items | set items => !items.isEmpty
  | dict entries => !entries.isEmpty

/-- The items of a collection: those of a list, the keys of a dictionary, the characters of a
text. -/
def items? : Value → Option (List Value)
  | list items | tuple items | set items => some items
  | dict entries => some (entries.map (·.1))
  | text value => some (value.toList.map fun c => .text (String.singleton c))
  | bytes value => some (value.map fun byte => .int byte.toNat)
  | _ => none

/-- The number that a value is, if it is one without a fraction: truth values count as zero and
one. -/
def integer? : Value → Option Int
  | bool value => some (if value then 1 else 0)
  | int value => some value
  | float value => value.toInt?
  | _ => none

/-- Are two values the same key of a dictionary? Numbers are the same key if they are equal,
whatever their type. -/
def sameKey (a b : Value) : Bool :=
  match a.integer?, b.integer? with
  | some x, some y => x == y
  | none, none =>
    match a, b with
    | null, null => true
    | float x, float y => x == y && x != .nan
    | text x, text y => x == y
    | date x, date y => x == y
    | moment x, moment y => x.sameAs y
    | bytes x, bytes y => x == y
    | _, _ => false
  | _, _ => false

mutual

/-- The type of the first part of a value that keeps it from being a key. -/
def unhashable? : Value → Option String
  | list _ => some "list"
  | set _ => some "set"
  | dict _ => some "dict"
  | tuple items => firstUnhashable? items
  | _ => none

/-- The type of the first part of some values that keeps them from being keys. -/
def firstUnhashable? : List Value → Option String
  | [] => none
  | item :: rest => unhashable? item <|> firstUnhashable? rest

end

mutual

/-- Are two values equal? Collections are if their parts are, dictionaries in any order. -/
def equals : Value → Value → Bool
  | list a, list b => equalsAll a b
  | tuple a, tuple b => equalsAll a b
  | set a, set b => a.length == b.length && a.all fun x => b.any (sameKey x)
  | dict a, dict b => a.length == b.length && equalsWithin b a
  | a, b => sameKey a b

/-- Are two lists of values equal? -/
def equalsAll : List Value → List Value → Bool
  | [], [] => true
  | a :: left, b :: right => equals a b && equalsAll left right
  | _, _ => false

/-- Are the entries of one dictionary in another one? -/
def equalsWithin (other : List (Value × Value)) : List (Value × Value) → Bool
  | [] => true
  | (key, value) :: rest =>
    (match other.find? fun (found, _) => sameKey found key with
      | some (_, found) => equals value found
      | none => false) && equalsWithin other rest

end

/-- The entries of a dictionary with a value under a key: in its old place if the key is there
already, otherwise at the end. -/
def insert (key value : Value) : List (Value × Value) → List (Value × Value)
  | [] => [(key, value)]
  | (other, old) :: rest =>
    if sameKey other key then (other, value) :: rest else (other, old) :: insert key value rest

/-! ## Texts -/

/-- A byte inside quotes. -/
def quotedByte (quote : Char) (byte : UInt8) : List Char :=
  let c := Char.ofNat byte.toNat
  if c == quote || c == '\\' then ['\\', c]
  else if c == '\n' then ['\\', 'n']
  else if c == '\r' then ['\\', 'r']
  else if c == '\t' then ['\\', 't']
  else if ' ' ≤ c && c ≤ '~' then [c]
  else '\\' :: 'x' :: Text.hexDigits 2 byte.toNat

/-- Bytes in quotes. -/
def quotedBytes (value : List UInt8) : String :=
  let quote := Text.quoteFor (value.map fun byte => Char.ofNat byte.toNat)
  String.ofList ('b' :: quote :: value.flatMap (quotedByte quote) ++ [quote])

/-- An offset from universal time as part of a moment. -/
def shownOffset (offset : Int) : String :=
  if offset = 0 then "datetime.timezone.utc"
  else s!"datetime.timezone({Yaml.ValueFault.duration offset})"

/-- A day inside other values. -/
def shownDate (date : Yaml.Date) : String :=
  s!"datetime.date({date.year}, {date.month}, {date.day})"

/-- A moment inside other values. Seconds are left out if there are none. -/
def shownMoment (moment : Yaml.Moment) : String :=
  let date := moment.date
  let fine :=
    if moment.microsecond ≠ 0 then s!", {moment.second}, {moment.microsecond}"
    else if moment.second ≠ 0 then s!", {moment.second}"
    else ""
  let zone := match moment.offset with
    | some offset => s!", tzinfo={shownOffset offset}"
    | none => ""
  s!"datetime.datetime({date.year}, {date.month}, {date.day}, {moment.hour}, {moment.minute}" ++
    fine ++ zone ++ ")"

mutual

/-- The form of a value inside other values. -/
def shown? : Value → Option String
  | null => some "None"
  | bool value => some (if value then "True" else "False")
  | int value => Number.decimal? value
  | float value => some value.text
  | text value => some (Text.quoted value)
  | date value => some (shownDate value)
  | moment value => some (shownMoment value)
  | bytes value => some (quotedBytes value)
  | list items => (shownAll? items).map fun texts => "[" ++ ", ".intercalate texts ++ "]"
  | tuple items =>
    (shownAll? items).map fun texts =>
      "(" ++ ", ".intercalate texts ++ (if texts.length = 1 then ",)" else ")")
  | set items =>
    (shownAll? items).map fun texts =>
      if texts.isEmpty then "set()" else "\x7b" ++ ", ".intercalate texts ++ "\x7d"
  | dict entries =>
    (shownEntries? entries).map fun texts => "\x7b" ++ ", ".intercalate texts ++ "\x7d"

/-- The forms of several values. -/
def shownAll? : List Value → Option (List String)
  | [] => some []
  | item :: rest => do
    let text ← shown? item
    return text :: (← shownAll? rest)

/-- The forms of the entries of a dictionary. -/
def shownEntries? : List (Value × Value) → Option (List String)
  | [] => some []
  | (key, value) :: rest => do
    let key ← shown? key
    let value ← shown? value
    return (key ++ ": " ++ value) :: (← shownEntries? rest)

end

/-- The text of a value. -/
def plain? : Value → Option String
  | text value => some value
  | date value => some value.text
  | moment value => some value.text
  | value => value.shown?

end Value

end SchemaCompiler.Data
