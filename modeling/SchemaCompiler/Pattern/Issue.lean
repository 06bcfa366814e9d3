import SchemaCompiler.Text.Quoted

/-!
# What can be wrong with a regular expression

An issue is about a place in the pattern, or about the pattern as a whole when it only shows once
the pattern has been read. Apart from issues there are faults: patterns that are refused for their
size or for flags that exclude each other, without a place.
-/

namespace SchemaCompiler.Pattern

/-- What is wrong with a regular expression. -/
inductive Issue where
  | trailingBackslash
  | missingName (what : String)
  | unterminatedName (terminator : Char)
  | badGroupName (name : String)
  | incompleteEscape (escape : String)
  | badEscape (escape : String)
  | missingBrace
  | unknownCharacterName (name : String)
  | octalTooLarge (escape : String)
  | openGroup
  | invalidReference (group : Nat)
  | sameLookbehind
  | unterminatedSet
  | badRange (low high : String)
  | emptyRange
  | nothingToRepeat
  | multipleRepeat
  | unexpectedEnd
  | unknownGroup (name : String)
  | unknownExtension (text : String)
  | unterminatedComment
  | unterminatedGroup
  | badGroupNumber
  | tooManyBranches
  | globalFlagsInside
  | redefinedGroup (name : String) (group previous : Nat)
  | localeFlag
  | incompatibleFlags
  | unknownFlag
  | expectedFlagEnd
  | expectedFlag
  | expectedColon
  | globalFlagOn
  | globalFlagOff
  | fixedFlagOff
  | flagOnAndOff
  | unbalancedParenthesis
  | lookbehindWidth
  | templateOperator (name : String)
  deriving DecidableEq, Repr

/-- The wording of an issue. -/
def Issue.message : Issue → String
  | trailingBackslash => "bad escape (end of pattern)"
  | missingName what => s!"missing {what}"
  | unterminatedName terminator => s!"missing {terminator}, unterminated name"
  | badGroupName name => s!"bad character in group name {Text.quoted name}"
  | incompleteEscape escape => s!"incomplete escape {escape}"
  | badEscape escape => s!"bad escape {escape}"
  | missingBrace => "missing \x7b"
  | unknownCharacterName name => s!"undefined character name {Text.quoted name}"
  | octalTooLarge escape => s!"octal escape value {escape} outside of range 0-0o377"
  | openGroup => "cannot refer to an open group"
  | invalidReference group => s!"invalid group reference {group}"
  | sameLookbehind => "cannot refer to group defined in the same lookbehind subpattern"
  | unterminatedSet => "unterminated character set"
  | badRange low high => s!"bad character range {low}-{high}"
  | emptyRange => "min repeat greater than max repeat"
  | nothingToRepeat => "nothing to repeat"
  | multipleRepeat => "multiple repeat"
  | unexpectedEnd => "unexpected end of pattern"
  | unknownGroup name => s!"unknown group name {Text.quoted name}"
  | unknownExtension text => s!"unknown extension ?{text}"
  | unterminatedComment => "missing ), unterminated comment"
  | unterminatedGroup => "missing ), unterminated subpattern"
  | badGroupNumber => "bad group number"
  | tooManyBranches => "conditional backref with more than two branches"
  | globalFlagsInside => "global flags not at the start of the expression"
  | redefinedGroup name group previous =>
    s!"redefinition of group name {Text.quoted name} as group {group}; was group {previous}"
  | localeFlag => "bad inline flags: cannot use 'L' flag with a str pattern"
  | incompatibleFlags => "bad inline flags: flags 'a', 'u' and 'L' are incompatible"
  | unknownFlag => "unknown flag"
  | expectedFlagEnd => "missing -, : or )"
  | expectedFlag => "missing flag"
  | expectedColon => "missing :"
  | globalFlagOn => "bad inline flags: cannot turn on global flag"
  | globalFlagOff => "bad inline flags: cannot turn off global flag"
  | fixedFlagOff => "bad inline flags: cannot turn off flags 'a', 'u' and 'L'"
  | flagOnAndOff => "bad inline flags: flag turned on and off"
  | unbalancedParenthesis => "unbalanced parenthesis"
  | lookbehindWidth => "look-behind requires fixed-width pattern"
  | templateOperator name => s!"internal: unsupported template operator {name}"

/-- Why a regular expression is refused without a place. -/
inductive Fault where
  | repetitionTooLarge
  | tooManyDigits (count : Nat)
  | noSuchCharacter
  | exclusiveFlags
  | lookbehindTooFar
  deriving DecidableEq, Repr

/-- The wording of a fault. -/
def Fault.message : Fault → String
  | repetitionTooLarge => "the repetition number is too large"
  | tooManyDigits count =>
    s!"Exceeds the limit (4300 digits) for integer string conversion: value has {count} digits; " ++
      "use sys.set_int_max_str_digits() to increase the limit"
  | noSuchCharacter => "Python int too large to convert to C int"
  | exclusiveFlags => "ASCII and UNICODE flags are incompatible"
  | lookbehindTooFar => "invalid SRE code"

/-- Why a pattern is refused: an issue, at a place if it has one, or a fault. -/
inductive Refusal where
  | issue (issue : Issue) (position : Option Nat)
  | fault (fault : Fault)
  deriving DecidableEq, Repr

/-- An issue in words. Its place is a position, and in a pattern of several lines also a line and a
column. -/
def describeIssue (pattern : List Char) (issue : Issue) : Option Nat → String
  | none => issue.message
  | some position =>
    let before := pattern.take position
    let line := before.count '\n' + 1
    let column := (before.reverse.takeWhile (· != '\n')).length + 1
    let place := s!"{issue.message} at position {position}"
    if pattern.contains '\n' then s!"{place} (line {line}, column {column})" else place

end SchemaCompiler.Pattern
