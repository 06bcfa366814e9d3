import SchemaCompiler.Yaml.Source
import SchemaCompiler.Yaml.Token.Step

/-!
# The token stream of a text

A reader of the stream asks for tokens one at a time, and no step is done before it is asked for. So
when a step fails, the tokens that did not wait for that step are still read first. The stream is
therefore the tokens that can be read, and the failure that comes after them, if there is one.

A step also fails when it looks beyond what can be read of the text. It looks at the character after
the token, and at some places further: at the start of a line for a separator, behind an indicator
for a blank, and behind an escape.
-/

namespace SchemaCompiler.Yaml

namespace Scanner

/-- How far the search for a separator looks from the start of a line. -/
def separatorReach (line : List Char) : Nat :=
  if line.take 3 == ['-', '-', '-'] || line.take 3 == ['.', '.', '.'] then 3 else 2

/-- How far a step looks from the start of its token to find out what token it is. -/
def startReach (s : Scanner) : Nat :=
  match s.cursor.rest with
  | [] => 0
  | c :: rest =>
    if s.mark.column == 0 && (c == '-' || c == '.') then separatorReach s.cursor.rest
    else if c == '!' then
      (rest.takeWhile fun d => d != '!' && !endsWord (some d)).length + 1
    else if startsPlain c then 0
    else if c == '-' || c == '?' || c == ':' then 1
    else 0

/-- Can the token that starts with a character have several lines that are searched for
separators? -/
def searchesLines (c : Char) : Bool := !(c == '|' || c == '>' || c == '%')

/-- The place up to which a step has looked when it comes to a mark. -/
def markReach (start : Scanner) (mark : Mark) : Nat :=
  let line := mark.index - mark.column
  if start.mark.line < mark.line && start.cursor.next.any searchesLines then
    max mark.index (line + separatorReach (start.cursor.rest.drop (line - start.mark.index)))
  else mark.index

/-- The length of the escapes at the front of a text, each a percent sign and two digits. -/
def escapeRun : List Char → Nat
  | '%' :: first :: second :: rest =>
    if isHexadecimal first && isHexadecimal second then escapeRun rest + 3 else 0
  | _ => 0

/-- How far a step looks behind the place of a complaint. -/
def complaintReach (complaint : Complaint) (rest : List Char) : Nat :=
  match complaint with
  | .noToken _ => 1
  | .expectedHexadecimal _ _ | .expectedUriEscape _ => (rest.takeWhile isHexadecimal).length
  | .uriNotUtf8 _ => escapeRun rest
  | _ => 0

/-- How far a step looks behind its token: a plain scalar ends before a colon if a blank is behind
it. -/
def endReach (s : Scanner) : Nat :=
  match s.tokens.back?.map Token.kind, s.cursor.next with
  | some (.scalar _ true), some ':' => 1
  | _, _ => 0

/-- The place up to which a step has looked, given the scanner at the start of the token and what
has come of the step. -/
def reach (start : Scanner) (outcome : Except Failure Scanner) : Nat :=
  max (start.mark.index + start.startReach) <|
    match outcome with
    | .ok s => max (start.markReach s.mark) (s.mark.index + s.endReach)
    | .error (.problem problem) =>
      let rest := start.cursor.rest.drop (problem.mark.index - start.mark.index)
      max (start.markReach problem.mark)
        (problem.mark.index + complaintReach problem.complaint rest)
    | .error (.value _) => 0

/-- Find the next token or tokens of a source. -/
def fetchWithin (source : Source) (s : Scanner) : Except Failure Scanner :=
  match source.edge with
  | none => s.fetch
  | some problem =>
    let outcome := s.fetch
    if source.text.length ≤ s.skipToToken.reach outcome then .error (.problem problem) else outcome

end Scanner

/-- The tokens of a text that can be read, and why there are no more, unless the text ends there. -/
structure TokenStream where
  tokens : List Token
  failure : Option Failure := none

namespace TokenStream

/-- Do steps until the text ends or one fails. -/
def scanFrom (source : Source) : Nat → Scanner → TokenStream
  | 0, s => { tokens := s.tokens.toList }
  | fuel + 1, s =>
    if s.done then { tokens := s.tokens.toList }
    else match s.fetchWithin source >>= Scanner.dropStaleKeys with
      | .ok s => scanFrom source fuel s
      | .error failure => { tokens := s.tokens.toList.take s.readable, failure := some failure }

/-- The token stream of a source. Every step but the last takes a character. -/
def ofSource (source : Source) : TokenStream :=
  scanFrom source (source.text.length + 2)
    (Scanner.emit .streamStart { cursor := { rest := source.text } })

end TokenStream

end SchemaCompiler.Yaml
