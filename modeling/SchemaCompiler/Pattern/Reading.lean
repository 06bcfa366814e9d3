import SchemaCompiler.Number.Reading
import SchemaCompiler.Pattern.CharacterName
import SchemaCompiler.Pattern.Item
import SchemaCompiler.Pattern.Source
import SchemaCompiler.Text.Identifier
import SchemaCompiler.Text.Letter

/-!
# Reading regular expressions

A pattern is read from left to right into its tree. The reader keeps the flags, the groups with
their names and widths, and the places of conditions on groups that may come later.
-/

namespace SchemaCompiler.Pattern

/-- A repetition count from which on a pattern is refused. -/
def repeatLimit : Nat := unbounded

/-- A group number from which on a reference is invalid. -/
def groupLimit : Nat := 1073741823

/-- The state of reading a pattern. -/
structure Reader where
  source : Source
  /-- The flags that hold for the whole pattern. -/
  flags : List Char := []
  names : List (String × Nat) := []
  /-- The width of each group, if it is closed. -/
  groups : Array (Option Width) := #[none]
  /-- Inside a look-behind: the number of groups that were there before it. -/
  lookbehind : Option Nat := none
  /-- The groups that conditions ask for by number, with the first place of each. -/
  conditions : List (Nat × Nat) := []

/-- Reading a part of a pattern. -/
abbrev Read := StateT Reader (Except Refusal)

namespace Read

/-- The position of the next unit. -/
def position : Read Nat := return (← get).source.position

/-- The next unit. -/
def peek : Read (Option (List Char)) := return (← get).source.next

/-- Run a step on the source. -/
def onSource {α : Type} (step : Source → Except Refusal (α × Source)) : Read α := do
  let (result, source) ← step (← get).source
  modify ({ · with source })
  return result

/-- Take the next unit. -/
def take : Read (Option (List Char)) :=
  onSource fun source => return (source.next, ← source.advance)

/-- Take the next unit if it is the given character. -/
def accept (c : Char) : Read Bool :=
  onSource fun source => do
    if source.nextIs c then return (true, ← source.advance) else return (false, source)

/-- Take single characters of a kind, at most a number of them. -/
def takeUpTo (kind : Char → Bool) (count : Nat) : Read (List Char) :=
  onSource (Source.takeUpTo kind count)

/-- Take all digits that follow. -/
def takeDigits : Read (List Char) :=
  onSource fun source => Source.takeUpTo Char.isDigit (source.rest.length + 1) source

/-- Take a name up to a terminator. -/
def takeName (terminator : Char) (what : String) : Read String :=
  onSource fun source => Source.takeName terminator what (source.rest.length + 1) [] source

/-- Refuse the pattern for an issue at a position. -/
def failAt {α : Type} (issue : Issue) (position : Nat) : Read α :=
  throw (.issue issue (some position))

/-- Refuse the pattern for an issue a number of characters before the next unit. -/
def failBack {α : Type} (issue : Issue) (distance : Nat) : Read α := do
  failAt issue ((← position) - distance)

end Read

open Read

/-! ## Escapes -/

/-- Is the character a hexadecimal digit? -/
def isHexDigit (c : Char) : Bool := c.isDigit || ('a' ≤ c && c ≤ 'f') || ('A' ≤ c && c ≤ 'F')

/-- Is the character an octal digit? -/
def isOctDigit (c : Char) : Bool := '0' ≤ c && c ≤ '7'

/-- The value of digits in a base. -/
def digitsValue (base : Nat) (digits : List Char) : Nat :=
  Number.ofDigits base (digits.filterMap Number.digitOf?)

/-- An escape that gives a character by hexadecimal digits. -/
def readHexEscape (letter : Char) (count : Nat) : Read Nat := do
  let digits ← takeUpTo isHexDigit count
  let escape := '\\' :: letter :: digits
  let code := digitsValue 16 digits
  if digits.length ≠ count then failBack (.incompleteEscape (String.ofList escape)) escape.length
  else if 0x80000000 ≤ code then throw (.fault .noSuchCharacter)
  else if 0x110000 ≤ code then failBack (.badEscape (String.ofList escape)) escape.length
  else return code

/-- An escape that gives a character by its name. -/
def readNamedEscape : Read Nat := do
  if ← accept '\x7b' then
    let name ← takeName '\x7d' "character name"
    if name.toList.any Text.isHalf then failBack (.badEscape "\\N") 2
    match characterNamed? name with
    | some code => return code
    | none => failBack (.unknownCharacterName name) (name.length + 4)
  else failBack .missingBrace 0

/-- The escapes of control characters and of the backslash itself. -/
def controlEscapes : List (Char × Nat) :=
  [('a', 7), ('b', 8), ('f', 12), ('n', 10), ('r', 13), ('t', 9), ('v', 11), ('\\', 92)]

/-- The escapes of classes of characters. -/
def classEscapes : List Char := ['d', 'D', 's', 'S', 'w', 'W']

/-- The escapes of places. -/
def anchorEscapes : List Char := ['A', 'b', 'B', 'Z']

/-- An escape of a single character that means the same inside and outside of character sets. -/
def readCharEscape (c : Char) : Read Nat :=
  if c == 'x' then readHexEscape c 2
  else if c == 'u' then readHexEscape c 4
  else if c == 'U' then readHexEscape c 8
  else if c == 'N' then readNamedEscape
  else if c.isAlphanum then failBack (.badEscape (String.ofList ['\\', c])) 2
  else return Text.codeOf c

/-- An escape of up to three octal digits. -/
def checkOctal (escape : List Char) : Read Nat :=
  let code := digitsValue 8 escape.tail
  if 0o377 < code then failBack (.octalTooLarge (String.ofList escape)) escape.length
  else return code

/-- An escape inside a character set: the number of a character, or nothing for a class. -/
def readSetEscape (c : Char) : Read (Option Nat) := do
  match controlEscapes.lookup c with
  | some code => return some code
  | none =>
    if classEscapes.contains c then return none
    else if isOctDigit c then
      let more ← takeUpTo isOctDigit 2
      return some (← checkOctal ('\\' :: c :: more))
    else return some (← readCharEscape c)

/-- Refuse a reference to a group from inside a look-behind, unless the group was closed before
it. -/
def checkLookbehind (group : Nat) : Read Unit := do
  let reader ← get
  match reader.lookbehind with
  | none => return ()
  | some before =>
    if (reader.groups[group]?.join).isNone then failBack .openGroup 0
    else if before ≤ group then failBack .sameLookbehind 0

/-- A reference to a group, whose text takes some characters before the next unit. -/
def readReference (group distance : Nat) : Read Item := do
  match (← get).groups[group]?.join with
  | none => failBack .openGroup distance
  | some width =>
    checkLookbehind group
    return .reference width

/-- An escape of digits: three octal digits give a character, others refer to a group. -/
def readNumericEscape (c : Char) : Read Item := do
  let more ← takeUpTo Char.isDigit 1
  let digits := c :: more
  let third ←
    if more.length = 1 && digits.all isOctDigit then takeUpTo isOctDigit 1 else pure []
  if third.length = 1 then
    let _ ← checkOctal ('\\' :: digits ++ third)
    return .unit
  else
    let group := digitsValue 10 digits
    if group < (← get).groups.size then readReference group (digits.length + 1)
    else failBack (.invalidReference group) digits.length

/-- An escape outside of character sets. -/
def readEscape (c : Char) : Read Item := do
  if anchorEscapes.contains c then return .anchor
  else if classEscapes.contains c || (controlEscapes.lookup c).isSome then return .unit
  else if c == '0' then
    let _ ← takeUpTo isOctDigit 2
    return .unit
  else if c.isDigit then readNumericEscape c
  else
    let _ ← readCharEscape c
    return .unit

/-! ## Character sets -/

/-- One end of a range, or a single member: the number of a character, or nothing for a class. -/
def readMember (unit : List Char) : Read (Option Nat) :=
  match unit with
  | ['\\', c] => readSetEscape c
  | unit => return unit.head?.map Text.codeOf

/-- The members of a character set that starts at a place, after some if `nonempty`. -/
def readSet (start : Nat) : Nat → Bool → Read Unit
  | 0, _ => failAt .unterminatedSet start
  | fuel + 1, nonempty => do
    match ← take with
    | none => failAt .unterminatedSet start
    | some low =>
      if low == [']'] && nonempty then return ()
      else
        let first ← readMember low
        if ← accept '-' then
          match ← take with
          | none => failAt .unterminatedSet start
          | some high =>
            if high == [']'] then return ()
            else
              let last ← readMember high
              let bad : Read Unit :=
                failBack (.badRange (String.ofList low) (String.ofList high))
                  (low.length + 1 + high.length)
              match first, last with
              | some a, some b => if b < a then bad else readSet start fuel true
              | _, _ => bad
        else readSet start fuel true

/-! ## Repetition -/

/-- A repetition count. -/
def readCount (digits : List Char) : Read (Option Nat) := do
  if digits.isEmpty then return none
  else if Number.digitLimit < digits.length then throw (.fault (.tooManyDigits digits.length))
  else
    let count := digitsValue 10 digits
    if repeatLimit ≤ count then throw (.fault .repetitionTooLarge) else return some count

/-- The counts of a repetition in braces, from after the opening brace; nothing if the brace stands
for itself. -/
def readBraces : Read (Option (Nat × Option Nat)) := do
  let start := (← get).source
  if start.nextIs '\x7d' then return none
  else
    let low ← takeDigits
    let ranged ← accept ','
    let high ← if ranged then takeDigits else pure low
    if ← accept '\x7d' then
      let least := (← readCount low).getD 0
      let greatest ← readCount high
      if greatest.any (· < least) then failAt .emptyRange start.position
      else return some (least, greatest)
    else
      modify ({ · with source := start })
      return none

/-- The counts of a quantifier; nothing if it is a brace that stands for itself. -/
def readQuantifier (c : Char) : Read (Option (Nat × Option Nat)) :=
  if c == '?' then return some (0, some 1)
  else if c == '*' then return some (0, none)
  else if c == '+' then return some (1, none)
  else readBraces

/-- Repeat the last item, which is at the front of the items read so far. -/
def repeatLast (start least : Nat) (greatest : Option Nat) : List Item → Read (List Item)
  | [] => failAt .nothingToRepeat start
  | .anchor :: _ => failAt .nothingToRepeat start
  | .repetition .. :: _ => failAt .multipleRepeat start
  | item :: rest => do
    let greed ←
      if ← accept '?' then pure Greed.lazy
      else if ← accept '+' then pure Greed.possessive
      else pure Greed.greedy
    return .repetition greed least greatest [item] :: rest

/-! ## Flags -/

/-- The letters of flags. -/
def flagLetters : List Char := ['i', 'L', 'm', 's', 'x', 'a', 't', 'u']

/-- Flags of which only one can hold. -/
def isTypeFlag (c : Char) : Bool := c == 'a' || c == 'L' || c == 'u'

/-- The flag that a unit is. -/
def flagOf? : List Char → Option Char
  | [c] => if flagLetters.contains c then some c else none
  | _ => none

/-- Refuse a unit where a flag should be. -/
def failFlag {α : Type} (unit : List Char) (otherwise : Issue) : Read α :=
  match unit with
  | [c] => failBack (if Text.isLetter c then .unknownFlag else otherwise) 1
  | unit => failBack otherwise unit.length

/-- Flags that are turned on, from the first one; the result holds what ends them. -/
def readFlagsOn : Nat → List Char → Char → Read (List Char × Char)
  | 0, _, _ => failBack .expectedFlagEnd 0
  | fuel + 1, seen, flag => do
    let seen := seen ++ [flag]
    if flag == 'L' then failBack .localeFlag 0
    else if isTypeFlag flag && seen.any (fun c => isTypeFlag c && c != flag) then
      failBack .incompatibleFlags 0
    else match ← take with
      | none => failBack .expectedFlagEnd 0
      | some unit =>
        if unit == [')'] || unit == ['-'] || unit == [':'] then return (seen, unit.headD ':')
        else match flagOf? unit with
          | some flag => readFlagsOn fuel seen flag
          | none => failFlag unit .expectedFlagEnd

/-- Flags that are turned off, from the first one. -/
def readFlagsOff : Nat → List Char → Char → Read (List Char)
  | 0, _, _ => failBack .expectedColon 0
  | fuel + 1, seen, flag => do
    let seen := seen ++ [flag]
    if isTypeFlag flag then failBack .fixedFlagOff 0
    else match ← take with
      | none => failBack .expectedColon 0
      | some unit =>
        if unit == [':'] then return seen
        else match flagOf? unit with
          | some flag => readFlagsOff fuel seen flag
          | none => failFlag unit .expectedColon

/-- Flags from their first letter or a minus sign: those turned on and off for a group, or nothing
if they hold for the whole pattern. -/
def readFlags (first : Char) : Read (Option (List Char × List Char)) := do
  let fuel := (← get).source.rest.length + 2
  let (on, ending) ← if first == '-' then pure ([], '-') else readFlagsOn fuel [] first
  if ending == ')' then
    modify fun reader => { reader with flags := reader.flags ++ on }
    return none
  else if on.contains 't' then failBack .globalFlagOn 1
  else
    let off ←
      if ending == '-' then
        match ← take with
        | none => failBack .expectedFlag 0
        | some unit =>
          match flagOf? unit with
          | some flag => readFlagsOff fuel [] flag
          | none => failFlag unit .expectedFlag
      else pure []
    if off.contains 't' then failBack .globalFlagOff 1
    else if on.any off.contains then failBack .flagOnAndOff 1
    else return some (on, off)

/-! ## Groups -/

/-- Refuse a group name that is no identifier. -/
def checkGroupName (name : String) : Read Unit :=
  if Text.isIdentifier name.toList then return ()
  else failBack (.badGroupName name) (name.length + 1)

/-- Open a group, under a new name if it has one. -/
def openGroup (name : Option String) : Read Nat := do
  let reader ← get
  let group := reader.groups.size
  match name with
  | none => set { reader with groups := reader.groups.push none }
  | some name =>
    match reader.names.lookup name with
    | some previous => failBack (.redefinedGroup name group previous) (name.length + 1)
    | none =>
      set { reader with
        groups := reader.groups.push none
        names := reader.names ++ [(name, group)] }
  return group

/-- The group that a condition asks for, by name or number. -/
def readCondition : Read Nat := do
  let name ← takeName ')' "group name"
  let distance := name.length + 1
  if Text.isIdentifier name.toList then
    match (← get).names.lookup name with
    | some group => return group
    | none => failBack (.unknownGroup name) distance
  else
    match Number.readInt 10 name.toList with
    | .ok (.ofNat group) =>
      if group = 0 then failBack .badGroupNumber distance
      else if groupLimit ≤ group then failBack (.invalidReference group) distance
      else
        let place := (← position) - distance
        modify fun reader =>
          if (reader.conditions.lookup group).isSome then reader
          else { reader with conditions := reader.conditions ++ [(group, place)] }
        return group
    | _ => failBack (.badGroupName name) distance

/-- A comment, from after its mark. -/
def skipComment (start : Nat) : Nat → Read Unit
  | 0 => failAt .unterminatedComment start
  | fuel + 1 => do
    match ← peek with
    | none => failAt .unterminatedComment start
    | some unit =>
      let _ ← take
      if unit == [')'] then return () else skipComment start fuel

/-- The rest of a line, in a pattern in which comments may stand. -/
def skipLine : Nat → Read Unit
  | 0 => return ()
  | fuel + 1 => do
    match ← take with
    | none => return ()
    | some unit => if unit == ['\n'] then return () else skipLine fuel

/-- Is the character white space that counts for nothing where comments may stand? -/
def isFiller (c : Char) : Bool :=
  c == ' ' || c == '\t' || c == '\n' || c == '\r' || c == '\x0b' || c == '\x0c'

/-- What the characters after an opening parenthesis make of a group. -/
inductive Opening where
  | capturing (name : Option String)
  | flagged (on off : List Char)
  | atomic
  | look (behind : Bool)
  | conditional (group : Nat)
  /-- No group: flags for the whole pattern. -/
  | globalFlags
  /-- No group: a comment. -/
  | comment
  /-- No group: a reference to one by name. -/
  | reference (item : Item)

/-- What follows `(?P`. -/
def readNamed : Read Opening := do
  if ← accept '<' then
    let name ← takeName '>' "group name"
    checkGroupName name
    return .capturing (some name)
  else if ← accept '=' then
    let name ← takeName ')' "group name"
    checkGroupName name
    match (← get).names.lookup name with
    | none => failBack (.unknownGroup name) (name.length + 1)
    | some group => return .reference (← readReference group (name.length + 1))
  else
    match ← take with
    | none => failBack .unexpectedEnd 0
    | some unit => failBack (.unknownExtension (String.ofList ('P' :: unit))) (unit.length + 2)

/-- What follows `(?<`. -/
def readLookbehind : Read Opening := do
  match ← take with
  | none => failBack .unexpectedEnd 0
  | some unit =>
    if unit == ['='] || unit == ['!'] then return .look true
    else failBack (.unknownExtension (String.ofList ('<' :: unit))) (unit.length + 2)

/-- What follows an opening parenthesis at a place. -/
def readOpening (start : Nat) : Read Opening := do
  if ← accept '?' then
    match ← take with
    | none => failBack .unexpectedEnd 0
    | some unit =>
      match unit with
      | ['P'] => readNamed
      | [':'] => return .flagged [] []
      | ['#'] =>
        skipComment start ((← get).source.rest.length + 1)
        return .comment
      | ['='] => return .look false
      | ['!'] => return .look false
      | ['<'] => readLookbehind
      | ['('] => return .conditional (← readCondition)
      | ['>'] => return .atomic
      | unit =>
        let first := if unit == ['-'] then some '-' else flagOf? unit
        match first with
        | some first =>
          match ← readFlags first with
          | some (on, off) => return .flagged on off
          | none => return .globalFlags
        | none => failBack (.unknownExtension (String.ofList unit)) (unit.length + 1)
  else return .capturing none

/-- Demand the parenthesis that closes a group. -/
def closeParenthesis (start : Nat) : Read Unit := do
  if ← accept ')' then return () else failAt .unterminatedGroup start

/-- Run a step inside a look-behind: until the outermost one ends, the groups before it are
known. -/
def insideLookbehind {α : Type} (behind : Bool) (step : Read α) : Read α := do
  let before := (← get).lookbehind
  if behind && before.isNone then
    modify fun reader => { reader with lookbehind := some reader.groups.size }
    let result ← step
    modify ({ · with lookbehind := none })
    return result
  else step

/-- Does the whole pattern ignore white space and allow comments? -/
def globallyVerbose : Read Bool := return (← get).flags.contains 'x'

mutual

/-- Alternatives up to a closing parenthesis or the end. Flags for the whole pattern are allowed at
the start of the outermost first alternative. -/
def readAlternatives : Nat → Bool → Bool → List (List Item) → Read (List Item)
  | 0, _, _, _ => failBack .unexpectedEnd 0
  | fuel + 1, verbose, outermost, before => do
    let body ← readItems fuel verbose (outermost && before.isEmpty) []
    let bodies := before ++ [body]
    if ← accept '|' then
      let verbose ← if outermost then globallyVerbose else pure verbose
      readAlternatives fuel verbose outermost bodies
    else match bodies with
      | [body] => return body
      | bodies => return [.branch bodies]

/-- Items up to a bar, a closing parenthesis or the end. The items read so far are in reverse. -/
def readItems : Nat → Bool → Bool → List Item → Read (List Item)
  | 0, _, _, _ => failBack .unexpectedEnd 0
  | fuel + 1, verbose, first, items => do
    let start ← position
    match ← peek with
    | none => return items.reverse
    | some ['|'] => return items.reverse
    | some [')'] => return items.reverse
    | some unit =>
      let _ ← take
      match unit with
      | ['\\', c] => readItems fuel verbose first ((← readEscape c) :: items)
      | [c] =>
        if verbose && isFiller c then readItems fuel verbose first items
        else if verbose && c == '#' then
          skipLine ((← get).source.rest.length + 1)
          readItems fuel verbose first items
        else if c == '[' then
          let _ ← accept '^'
          readSet start ((← get).source.rest.length + 1) false
          readItems fuel verbose first (.unit :: items)
        else if c == '*' || c == '+' || c == '?' || c == '\x7b' then
          match ← readQuantifier c with
          | none => readItems fuel verbose first (.unit :: items)
          | some (least, greatest) =>
            readItems fuel verbose first (← repeatLast start least greatest items)
        else if c == '^' || c == '$' then readItems fuel verbose first (.anchor :: items)
        else if c == '(' then
          match ← readOpening start with
          | .comment => readItems fuel verbose first items
          | .reference item => readItems fuel verbose first (item :: items)
          | .globalFlags =>
            if first && items.isEmpty then readItems fuel (← globallyVerbose) first items
            else failAt .globalFlagsInside start
          | opening =>
            readItems fuel verbose first ((← readGroup fuel verbose start opening) :: items)
        else readItems fuel verbose first (.unit :: items)
      | _ => readItems fuel verbose first (.unit :: items)

/-- The body of a group, and its closing parenthesis. -/
def readGroup : Nat → Bool → Nat → Opening → Read Item
  | 0, _, start, _ => failAt .unterminatedGroup start
  | fuel + 1, verbose, start, opening => do
    match opening with
    | .look behind =>
      let body ← insideLookbehind behind (readAlternatives fuel verbose false [])
      closeParenthesis start
      return .look behind body
    | .conditional group =>
      checkLookbehind group
      let yes ← readItems fuel verbose false []
      let no ←
        if ← accept '|' then
          let no ← readItems fuel verbose false []
          if (← peek) == some ['|'] then failBack .tooManyBranches 0 else pure (some no)
        else pure none
      closeParenthesis start
      return .conditional yes no
    | .atomic =>
      let body ← readAlternatives fuel verbose false []
      closeParenthesis start
      return .atomic body
    | .flagged on off =>
      let verbose := (verbose || on.contains 'x') && !off.contains 'x'
      let body ← readAlternatives fuel verbose false []
      closeParenthesis start
      return .group body
    | .capturing name =>
      let group ← openGroup name
      let body ← readAlternatives fuel verbose false []
      closeParenthesis start
      modify fun reader =>
        { reader with groups := reader.groups.setIfInBounds group (some (bodyWidth body)) }
      return .group body
    | .globalFlags | .comment | .reference _ => return .group []

end

/-! ## Whole patterns -/

/-- Read a whole pattern, and check what only the whole shows. -/
def readPattern : Read Unit := do
  let fuel := 4 * (← get).source.rest.length + 8
  let body ← readAlternatives fuel false true []
  let reader ← get
  if reader.flags.contains 'a' && reader.flags.contains 'u' then throw (.fault .exclusiveFlags)
  else if reader.source.next.isSome then failBack .unbalancedParenthesis 0
  else match reader.conditions.find? fun (group, _) => reader.groups.size ≤ group with
    | some (group, place) => failAt (.invalidReference group) place
    | none =>
      match bodyLate? (reader.flags.contains 't') body with
      | some issue => throw (.issue issue none)
      | none => if lookbehindLimit ≤ bodyReach body then throw (.fault .lookbehindTooFar)

/-- Is a text a regular expression? -/
def check (pattern : List Char) : Except Refusal Unit := do
  let source ← Source.at? 0 pattern
  let _ ← readPattern.run { source }

end SchemaCompiler.Pattern
