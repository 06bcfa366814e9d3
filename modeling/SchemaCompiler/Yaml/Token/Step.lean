import SchemaCompiler.Yaml.Token.Property

/-!
# Finding tokens

Tokens are found one step after another. A step moves to the next token and finds it, but a key is
not found this way: a key without a question mark is only recognised by the colon behind it. Until
the colon is seen the token is a *possible key*: a note of its number and place, one for each level
of brackets. When the colon comes, the tokens that announce a key are put in front of that token;
when the line ends first, the note is dropped, or is a problem if nothing but a key can stand there.
-/

namespace SchemaCompiler.Yaml

/-- A token that may turn out to be a key. -/
structure PossibleKey where
  /-- The number of the token in the stream. -/
  number : Nat
  /-- Must it be a key? -/
  required : Bool
  mark : Mark
  deriving DecidableEq, Repr

/-- The tokens found so far and what is needed to find the next. -/
structure Scanner where
  cursor : Cursor
  tokens : Array Token := #[]
  /-- How many brackets are open. -/
  flowLevel : Int := 0
  /-- The possible key of each level of brackets. -/
  keys : List (Int × PossibleKey) := []
  /-- The column of the innermost block collection; -1 outside of all. -/
  indent : Int := -1
  /-- The columns of the block collections around it. -/
  outer : List Int := []
  /-- May a key without a question mark start here? -/
  allowKey : Bool := true
  done : Bool := false
  deriving Repr

/-- The most characters between the start of a key and its colon. -/
def keyWidth : Nat := 1024

namespace Scanner

/-- Is the scanner between brackets? -/
def inFlow (s : Scanner) : Bool := s.flowLevel != 0

/-- Where the scanner is. -/
def mark (s : Scanner) : Mark := s.cursor.mark

/-- The column of the scanner. -/
def column (s : Scanner) : Int := s.mark.column

/-- Add a token of no width. -/
def emit (kind : TokenKind) (s : Scanner) : Scanner :=
  { s with tokens := s.tokens.push { kind, start := s.mark, stop := s.mark } }

/-- Add a token that takes some characters. -/
def emitWide (kind : TokenKind) (width : Nat) (s : Scanner) : Scanner :=
  let cursor := s.cursor.advanceBy width
  { s with cursor, tokens := s.tokens.push { kind, start := s.mark, stop := cursor.mark } }

/-- Add a token that ends at a mark, and go on at a cursor. -/
def emitTo (kind : TokenKind) (stop : Mark) (cursor : Cursor) (s : Scanner) : Scanner :=
  { s with cursor, tokens := s.tokens.push { kind, start := s.mark, stop } }

/-! ## Possible keys -/

/-- Forget the possible keys that the scanner has left behind: those on an earlier line or too far
back. One that must be a key is a problem. -/
def dropStaleKeys (s : Scanner) : Except Failure Scanner :=
  let stale (key : PossibleKey) : Bool :=
    key.mark.line != s.mark.line || keyWidth < s.mark.index - key.mark.index
  if s.keys.any fun (_, key) => stale key && key.required then complain .missingColon s.mark
  else .ok { s with keys := s.keys.filter fun (_, key) => !stale key }

/-- The possible key of the current level of brackets. -/
def levelKey? (s : Scanner) : Option PossibleKey := s.keys.lookup s.flowLevel

/-- Forget the possible key of the current level. One that must be a key is a problem. -/
def dropKey (s : Scanner) : Except Failure Scanner :=
  if s.levelKey?.any (·.required) then complain .missingColon s.mark
  else .ok { s with keys := s.keys.filter fun (level, _) => level != s.flowLevel }

/-- Note that the next token may be a key. -/
def noteKey (s : Scanner) : Except Failure Scanner :=
  if s.allowKey then do
    let key : PossibleKey :=
      { number := s.tokens.size, required := !s.inFlow && s.indent == s.column, mark := s.mark }
    let s ← s.dropKey
    return { s with keys := s.keys ++ [(s.flowLevel, key)] }
  else .ok s

/-- How many tokens can be read before the next step must be done: all of them, or those before the
first possible key. -/
def readable (s : Scanner) : Nat :=
  s.keys.foldl (fun least (_, key) => min least key.number) s.tokens.size

/-! ## Indentation -/

/-- Close block collections, the innermost first, while they are indented more than a column. -/
def closeBlocksFrom (column : Int) : List Int → Int → Scanner → Scanner
  | outer, indent, s =>
    if indent ≤ column then { s with indent, outer }
    else match outer with
      | [] => { s with indent := -1, outer := [] }
      | next :: rest => closeBlocksFrom column rest next (s.emit .blockEnd)

/-- Close the block collections that are indented more than a column. Between brackets, indentation
has no meaning. -/
def closeBlocks (column : Int) (s : Scanner) : Scanner :=
  if s.inFlow then s else closeBlocksFrom column s.outer s.indent s

/-- Open a block collection at a column, if it is indented more than the current one. -/
def openBlock? (column : Int) (s : Scanner) : Option Scanner :=
  if s.indent < column then some { s with indent := column, outer := s.indent :: s.outer } else none

/-- Open a block collection here, if it is indented more than the current one. -/
def openBlockHere (kind : TokenKind) (s : Scanner) : Scanner :=
  match s.openBlock? s.column with
  | some s => s.emit kind
  | none => s

/-! ## One step for each kind of token -/

/-- End the blocks and the possible keys of a document. -/
def endDocument (s : Scanner) : Except Failure Scanner := do
  let s ← (s.closeBlocks (-1)).dropKey
  return { s with allowKey := false }

/-- The end of the text. -/
def fetchEnd (s : Scanner) : Except Failure Scanner := do
  let s ← s.endDocument
  return { s with keys := [], done := true }.emit .streamEnd

/-- A directive line. -/
def fetchDirective (s : Scanner) : Except Failure Scanner := do
  let s ← s.endDocument
  let (directive, stop, cursor) ← scanDirective s.cursor
  return s.emitTo (.directive directive) stop cursor

/-- A line that starts or ends a document. -/
def fetchSeparator (kind : TokenKind) (s : Scanner) : Except Failure Scanner := do
  let s ← s.endDocument
  return s.emitWide kind 3

/-- An opening bracket. -/
def fetchOpening (kind : TokenKind) (s : Scanner) : Except Failure Scanner := do
  let s ← s.noteKey
  return { s with flowLevel := s.flowLevel + 1, allowKey := true }.emitWide kind 1

/-- A closing bracket. -/
def fetchClosing (kind : TokenKind) (s : Scanner) : Except Failure Scanner := do
  let s ← s.dropKey
  return { s with flowLevel := s.flowLevel - 1, allowKey := false }.emitWide kind 1

/-- A comma between brackets. -/
def fetchFlowEntry (s : Scanner) : Except Failure Scanner := do
  let s ← s.dropKey
  return { s with allowKey := true }.emitWide .flowEntry 1

/-- The dash of a sequence entry. -/
def fetchBlockEntry (s : Scanner) : Except Failure Scanner := do
  let s ←
    if s.inFlow then pure s
    else if s.allowKey then pure (s.openBlockHere .blockSequenceStart)
    else complain .entryNotAllowed s.mark
  let s ← s.dropKey
  return { s with allowKey := true }.emitWide .blockEntry 1

/-- The question mark of a key. -/
def fetchKey (s : Scanner) : Except Failure Scanner := do
  let s ←
    if s.inFlow then pure s
    else if s.allowKey then pure (s.openBlockHere .blockMappingStart)
    else complain .keyNotAllowed s.mark
  let s ← s.dropKey
  return { s with allowKey := !s.inFlow }.emitWide .key 1

/-- Announce a key in front of a token that was a possible key, and the mapping if it starts
there. -/
def announceKey (key : PossibleKey) (s : Scanner) : Scanner :=
  let token (kind : TokenKind) : Token := { kind, start := key.mark, stop := key.mark }
  let (before, after) := (s.tokens.take key.number, s.tokens.drop key.number)
  let s :=
    { s with keys := s.keys.filter fun (level, _) => level != s.flowLevel, allowKey := false }
  let opened := if s.inFlow then none else s.openBlock? key.mark.column
  match opened with
  | some s => { s with tokens := before ++ #[token .blockMappingStart, token .key] ++ after }
  | none => { s with tokens := before ++ #[token .key] ++ after }

/-- The colon before a value. -/
def fetchValue (s : Scanner) : Except Failure Scanner := do
  let s ←
    match s.levelKey? with
    | some key => pure (s.announceKey key)
    | none => do
      let s ←
        if s.inFlow then pure s
        else if s.allowKey then pure (s.openBlockHere .blockMappingStart)
        else complain .valueNotAllowed s.mark
      pure { s with allowKey := !s.inFlow }
  return s.emitWide .value 1

/-- An anchor or alias. -/
def fetchAnchor (kind : String → TokenKind) (s : Scanner) : Except Failure Scanner := do
  let s ← s.noteKey
  let (name, cursor) ← scanAnchorName s.cursor
  return { s with allowKey := false }.emitTo (kind name) cursor.mark cursor

/-- A tag. -/
def fetchTag (s : Scanner) : Except Failure Scanner := do
  let s ← s.noteKey
  let (handle, suffix, cursor) ← scanTag s.cursor
  return { s with allowKey := false }.emitTo (.tag handle suffix) cursor.mark cursor

/-- A block scalar. -/
def fetchBlock (folded : Bool) (s : Scanner) : Except Failure Scanner := do
  let s ← s.dropKey
  let scalar ← scanBlock folded s.indent s.cursor
  return { s with allowKey := true }.emitTo (.scalar (String.ofList scalar.text) false)
    scalar.stop scalar.cursor

/-- A quoted scalar. -/
def fetchQuoted (quote : Char) (s : Scanner) : Except Failure Scanner := do
  let s ← s.noteKey
  let scalar ← scanQuoted quote s.cursor
  return { s with allowKey := false }.emitTo (.scalar (String.ofList scalar.text) false)
    scalar.stop scalar.cursor

/-- A plain scalar. -/
def fetchPlain (s : Scanner) : Except Failure Scanner := do
  let s ← s.noteKey
  let (scalar, broken) := scanPlain s.inFlow (s.indent + 1) s.cursor
  return { s with allowKey := broken }.emitTo (.scalar (String.ofList scalar.text) true)
    scalar.stop scalar.cursor

/-- Move over spaces, comments and line breaks. Outside of brackets a new line may start with a
key. -/
def skipBlank : Nat → Scanner → Scanner
  | 0, s => s
  | fuel + 1, s =>
    let cursor := s.cursor.skipSpaces.skipComment
    match cursor.takeBreak with
    | (none, _) => { s with cursor }
    | (some _, cursor) => skipBlank fuel { s with cursor, allowKey := s.allowKey || !s.inFlow }

/-- Move to the next token. A byte order mark at the very start is no content. -/
def skipToToken (s : Scanner) : Scanner :=
  let cursor :=
    if s.mark.index == 0 && s.cursor.next == some '\uFEFF' then s.cursor.advance else s.cursor
  skipBlank (cursor.rest.length + 1) { s with cursor }

/-- Can a plain scalar start with the character, whatever follows it? -/
def startsPlain (c : Char) : Bool :=
  !endsItem (some c) && !("-?:,[]\x7b\x7d#&*!|>'\"%@`".toList.contains c)

/-- The step for the token that starts with a character. -/
def fetchAt (c : Char) (s : Scanner) : Except Failure Scanner :=
  let followed := !endsItem (s.cursor.look 1)
  let separator := s.mark.column == 0 && s.cursor.atSeparator
  if c == '%' && s.mark.column == 0 then s.fetchDirective
  else if c == '-' && separator then s.fetchSeparator .documentStart
  else if c == '.' && separator then s.fetchSeparator .documentEnd
  else if c == '[' then s.fetchOpening .flowSequenceStart
  else if c == '\x7b' then s.fetchOpening .flowMappingStart
  else if c == ']' then s.fetchClosing .flowSequenceEnd
  else if c == '\x7d' then s.fetchClosing .flowMappingEnd
  else if c == ',' then s.fetchFlowEntry
  else if c == '-' && !followed then s.fetchBlockEntry
  else if c == '?' && (s.inFlow || !followed) then s.fetchKey
  else if c == ':' && (s.inFlow || !followed) then s.fetchValue
  else if c == '*' then s.fetchAnchor .aliasOf
  else if c == '&' then s.fetchAnchor .anchor
  else if c == '!' then s.fetchTag
  else if c == '|' && !s.inFlow then s.fetchBlock false
  else if c == '>' && !s.inFlow then s.fetchBlock true
  else if c == '\x27' || c == '"' then s.fetchQuoted c
  else if startsPlain c then s.fetchPlain
  else if followed && (c == '-' || (!s.inFlow && (c == '?' || c == ':'))) then s.fetchPlain
  else complain (.noToken (some c)) s.mark

/-- Find the next token or tokens. -/
def fetch (s : Scanner) : Except Failure Scanner := do
  let s ← s.skipToToken.dropStaleKeys
  let s := s.closeBlocks s.column
  match s.cursor.next with
  | none => s.fetchEnd
  | some c => s.fetchAt c

end Scanner

end SchemaCompiler.Yaml
