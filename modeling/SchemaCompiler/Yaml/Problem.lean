import SchemaCompiler.Text.Utf8
import SchemaCompiler.Yaml.Mark

/-!
# What can be wrong with a YAML text

Reading has four stages, each with complaints of its own: characters, tokens, the grammar of nodes,
and the anchors of the composed graph. A fifth stage, giving values to tagged scalars, is only
reached by texts that compose.
-/

namespace SchemaCompiler.Yaml

/-- The stage of reading at which a complaint arises. -/
inductive Stage where
  | characters
  | tokens
  | grammar
  | composition
  | construction
  deriving DecidableEq, Repr

/-- What is wrong with a YAML text. A missing character stands for the end of the text; tokens are
named by what identifies them in messages. -/
inductive Complaint where
  | notUtf8 (fault : Text.Utf8Fault)
  | forbiddenCharacter (c : Char)
  | missingColon
  | entryNotAllowed
  | keyNotAllowed
  | valueNotAllowed
  | noToken (found : Option Char)
  | expectedName (found : Option Char)
  | expectedDigit (found : Option Char)
  | expectedDigitOrDot (found : Option Char)
  | expectedDigitOrSpace (found : Option Char)
  | expectedSpace (found : Option Char)
  | expectedLineEnd (found : Option Char)
  | expectedTagEnd (found : Option Char)
  | expectedHandle (found : Option Char)
  | expectedUri (found : Option Char)
  | expectedUriEscape (found : Option Char)
  | uriNotUtf8 (fault : Text.Utf8Fault)
  | expectedBlockIndicator (found : Option Char)
  | zeroIndentation
  | expectedHexadecimal (count : Nat) (found : Option Char)
  | unknownEscape (found : Option Char)
  | endInsideQuotes
  | separatorInsideQuotes
  | expectedDocumentStart (found : String)
  | repeatedVersion
  | unsupportedVersion
  | repeatedTagHandle (handle : String)
  | unknownTagHandle (handle : String)
  | expectedContent (found : String)
  | expectedBlockEnd (found : String)
  | expectedSequenceEnd (found : String)
  | expectedMappingEnd (found : String)
  | unknownAlias (name : String)
  | repeatedAnchor
  | anotherDocument
  | noConstructor (tag : String)
  | expectedSequenceNode (found : String)
  | expectedMappingNode (found : String)
  | expectedOrderedPairs (found : String)
  | expectedPairs (found : String)
  | expectedPairMapping (found : String)
  | expectedSinglePair (count : Nat)
  | expectedScalarNode (found : String)
  | expectedMergeSource (found : String)
  | expectedMergeMapping (found : String)
  | unhashableKey
  | notAscii (detail : String)
  | notBase64 (detail : String)
  deriving DecidableEq, Repr

namespace Complaint

/-- A character in words; the end of the text is shown as the zero character. -/
def shown (found : Option Char) : String :=
  Text.quoted (String.singleton (found.getD (Char.ofNat 0)))

/-- The stage at which a complaint arises. -/
def stage : Complaint → Stage
  | notUtf8 _ | forbiddenCharacter _ => .characters
  | missingColon | entryNotAllowed | keyNotAllowed | valueNotAllowed | noToken _ | expectedName _
  | expectedDigit _ | expectedDigitOrDot _ | expectedDigitOrSpace _ | expectedSpace _
  | expectedLineEnd _ | expectedTagEnd _ | expectedHandle _ | expectedUri _ | expectedUriEscape _
  | uriNotUtf8 _ | expectedBlockIndicator _ | zeroIndentation | expectedHexadecimal _ _
  | unknownEscape _ | endInsideQuotes | separatorInsideQuotes => .tokens
  | expectedDocumentStart _ | repeatedVersion | unsupportedVersion | repeatedTagHandle _
  | unknownTagHandle _ | expectedContent _ | expectedBlockEnd _ | expectedSequenceEnd _
  | expectedMappingEnd _ => .grammar
  | unknownAlias _ | repeatedAnchor | anotherDocument => .composition
  | noConstructor _ | expectedSequenceNode _ | expectedMappingNode _ | expectedOrderedPairs _
  | expectedPairs _ | expectedPairMapping _ | expectedSinglePair _ | expectedScalarNode _
  | expectedMergeSource _ | expectedMergeMapping _ | unhashableKey | notAscii _
  | notBase64 _ => .construction

/-- The wording of a complaint. -/
def message : Complaint → String
  | notUtf8 fault => fault.message
  | forbiddenCharacter _ => "special characters are not allowed"
  | missingColon => "could not find expected ':'"
  | entryNotAllowed => "sequence entries are not allowed here"
  | keyNotAllowed => "mapping keys are not allowed here"
  | valueNotAllowed => "mapping values are not allowed here"
  | noToken found => s!"found character {shown found} that cannot start any token"
  | expectedName found => s!"expected alphabetic or numeric character, but found {shown found}"
  | expectedDigit found => s!"expected a digit, but found {shown found}"
  | expectedDigitOrDot found => s!"expected a digit or '.', but found {shown found}"
  | expectedDigitOrSpace found => s!"expected a digit or ' ', but found {shown found}"
  | expectedSpace found => s!"expected ' ', but found {shown found}"
  | expectedLineEnd found => s!"expected a comment or a line break, but found {shown found}"
  | expectedTagEnd found => s!"expected '>', but found {shown found}"
  | expectedHandle found => s!"expected '!', but found {shown found}"
  | expectedUri found => s!"expected URI, but found {shown found}"
  | expectedUriEscape found =>
    s!"expected URI escape sequence of 2 hexadecimal numbers, but found {shown found}"
  | uriNotUtf8 fault => fault.message
  | expectedBlockIndicator found =>
    s!"expected chomping or indentation indicators, but found {shown found}"
  | zeroIndentation => "expected indentation indicator in the range 1-9, but found 0"
  | expectedHexadecimal count found =>
    s!"expected escape sequence of {count} hexadecimal numbers, but found {shown found}"
  | unknownEscape found => s!"found unknown escape character {shown found}"
  | endInsideQuotes => "found unexpected end of stream"
  | separatorInsideQuotes => "found unexpected document separator"
  | expectedDocumentStart found =>
    s!"expected '<document start>', but found {Text.quoted found}"
  | repeatedVersion => "found duplicate YAML directive"
  | unsupportedVersion => "found incompatible YAML document (version 1.* is required)"
  | repeatedTagHandle handle => s!"duplicate tag handle {Text.quoted handle}"
  | unknownTagHandle handle => s!"found undefined tag handle {Text.quoted handle}"
  | expectedContent found => s!"expected the node content, but found {Text.quoted found}"
  | expectedBlockEnd found => s!"expected <block end>, but found {Text.quoted found}"
  | expectedSequenceEnd found => s!"expected ',' or ']', but got {Text.quoted found}"
  | expectedMappingEnd found => s!"expected ',' or '\x7d', but got {Text.quoted found}"
  | unknownAlias name => s!"found undefined alias {Text.quoted name}"
  | repeatedAnchor => "second occurrence"
  | anotherDocument => "but found another document"
  | noConstructor tag => s!"could not determine a constructor for the tag {Text.quoted tag}"
  | expectedSequenceNode found => s!"expected a sequence node, but found {found}"
  | expectedMappingNode found => s!"expected a mapping node, but found {found}"
  | expectedOrderedPairs found | expectedPairs found => s!"expected a sequence, but found {found}"
  | expectedPairMapping found => s!"expected a mapping of length 1, but found {found}"
  | expectedScalarNode found => s!"expected a scalar node, but found {found}"
  | expectedSinglePair count => s!"expected a single mapping item, but found {count} items"
  | expectedMergeSource found =>
    s!"expected a mapping or list of mappings for merging, but found {found}"
  | expectedMergeMapping found => s!"expected a mapping for merging, but found {found}"
  | unhashableKey => "found unhashable key"
  | notAscii detail => s!"failed to convert base64 data into ascii: {detail}"
  | notBase64 detail => s!"failed to decode base64 data: {detail}"

/-- What was being constructed, for the complaints that say so. -/
def context? : Complaint → Option String
  | expectedOrderedPairs _ => some "while constructing an ordered map"
  | expectedPairs _ => some "while constructing pairs"
  | _ => none

end Complaint

/-- A complaint and the place it is about. -/
structure Problem where
  complaint : Complaint
  mark : Mark
  deriving DecidableEq, Repr

namespace Problem

/-- The line of a problem, counted from one. A forbidden character is reported without a line. -/
def line? (problem : Problem) : Option Nat :=
  match problem.complaint.stage with
  | .characters => none
  | _ => some (problem.mark.line + 1)

/-- The column of a problem, counted from one. -/
def column? (problem : Problem) : Option Nat := problem.line?.map fun _ => problem.mark.column + 1

/-- A problem in one phrase. A forbidden character is shown with its number and position. -/
def summary (problem : Problem) : String :=
  match problem.complaint with
  | .forbiddenCharacter c =>
    "unacceptable character #x" ++ String.ofList (Text.hexDigits 4 c.toNat) ++ ": " ++
      problem.complaint.message ++ s!"\n  in \"<unicode string>\", position {problem.mark.index}"
  | complaint => complaint.message

/-- A problem with its context and the line it is in. -/
def describe (problem : Problem) (text : List Char) : String :=
  let context := match problem.complaint.context? with
    | some context => context ++ "\n"
    | none => ""
  context ++ problem.complaint.message ++ "\n" ++ problem.mark.describe text

end Problem

end SchemaCompiler.Yaml
