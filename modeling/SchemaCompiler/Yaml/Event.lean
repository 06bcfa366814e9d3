import SchemaCompiler.Yaml.Token.Stream

/-!
# Events

The grammar of YAML turns the token stream into a stream of events: documents, collections and their
ends, scalars and aliases. At each point a stack of goals says what the grammar expects, the nearest
goal first. A step looks at the next token, yields one event and changes the goals. As with tokens,
the stream of events is what can be read, and the failure that comes after it.
-/

namespace SchemaCompiler.Yaml

/-- What an event is. A tag is resolved against its handle; `plain` tells whether a scalar without a
tag may be something other than text. -/
inductive EventKind where
  | streamStart
  | streamEnd
  | documentStart
  | documentEnd
  | aliasOf (name : String)
  | scalar (anchor tag : Option String) (plain : Bool) (text : String)
  | sequenceStart (anchor tag : Option String)
  | mappingStart (anchor tag : Option String)
  | collectionEnd
  deriving DecidableEq, Repr

/-- An event and where it starts. -/
structure Event where
  kind : EventKind
  mark : Mark
  deriving DecidableEq, Repr

/-- What the grammar expects. -/
inductive Goal where
  | streamStart
  | firstDocument
  | document
  | content
  | documentEnd
  /-- A node; in block style if `block`, and then also entries without further indentation if
  `indentless`. -/
  | node (block indentless : Bool)
  | blockEntry
  | indentlessEntry
  | blockKey
  | blockValue
  | flowEntry (first : Bool)
  /-- The key, the value and the end of a mapping with one pair and no braces. -/
  | pairKey
  | pairValue
  | pairEnd
  | flowKey (first : Bool)
  | flowValue
  | flowMissingValue
  deriving DecidableEq, Repr

/-- The state of the grammar: the tokens ahead, the goals, and the tag handles of the document. -/
structure Grammar where
  ahead : TokenStream
  goals : List Goal := [.streamStart]
  handles : List (String × String) := []

/-- The tag handles that every document has. -/
def defaultHandles : List (String × String) := [("!", "!"), ("!!", "tag:yaml.org,2002:")]

namespace Grammar

/-- The next token, or the failure that comes instead. -/
def peek (g : Grammar) : Except Failure Token :=
  match g.ahead.tokens, g.ahead.failure with
  | token :: _, _ => .ok token
  | [], some failure => .error failure
  | [], none => .ok { kind := .streamEnd, start := {}, stop := {} }

/-- Move over a token. -/
def skip (g : Grammar) : Grammar :=
  { g with ahead := { g.ahead with tokens := g.ahead.tokens.tail } }

/-- Put goals in front of the others. -/
def expect (goals : List Goal) (g : Grammar) : Grammar := { g with goals := goals ++ g.goals }

/-- What a step gives: an event and the state after it. -/
abbrev Step := Except Failure (Event × Grammar)

/-- Yield an event. -/
def yield (kind : EventKind) (mark : Mark) (g : Grammar) : Step := .ok ({ kind, mark }, g)

/-- Yield the empty scalar that stands for a missing node. -/
def yieldEmpty (mark : Mark) (g : Grammar) : Step := g.yield (.scalar none none true "") mark

/-! ## Nodes -/

/-- The full form of a tag. -/
def resolveTag (handle : Option String) (suffix : String) (mark : Mark) (g : Grammar) :
    Except Failure String :=
  match handle with
  | none => .ok suffix
  | some handle =>
    match g.handles.lookup handle with
    | some start => .ok (start ++ suffix)
    | none => complain (.unknownTagHandle handle) mark

/-- The anchor and the tag in front of a node. -/
structure Properties where
  anchor : Option String := none
  tag : Option (Option String × String × Mark) := none
  start : Option Mark := none

/-- Read the anchor and the tag in front of a node, in either order. -/
def properties (g : Grammar) : Except Failure (Properties × Grammar) := do
  let first ← g.peek
  match first.kind with
  | .anchor name =>
    let g := g.skip
    let second ← g.peek
    match second.kind with
    | .tag handle suffix =>
      return ({ anchor := some name, tag := some (handle, suffix, second.start),
                start := some first.start }, g.skip)
    | _ => return ({ anchor := some name, start := some first.start }, g)
  | .tag handle suffix =>
    let g := g.skip
    let tag := some (handle, suffix, first.start)
    let second ← g.peek
    match second.kind with
    | .anchor name => return ({ anchor := some name, tag, start := some first.start }, g.skip)
    | _ => return ({ tag, start := some first.start }, g)
  | _ => return ({}, g)

/-- A node that is no alias: properties and then content, of which properties may do without. -/
def stepContent (block indentless : Bool) (g : Grammar) : Step := do
  let (properties, g) ← g.properties
  let tag ← properties.tag.mapM fun (handle, suffix, mark) => g.resolveTag handle suffix mark
  let token ← g.peek
  let anchor := properties.anchor
  let mark := properties.start.getD token.start
  let unresolved := tag.all (· == "!")
  match token.kind with
  | .scalar text plain =>
    g.skip.yield (.scalar anchor tag ((plain && tag.isNone) || tag == some "!") text) mark
  | .flowSequenceStart =>
    (g.skip.expect [.flowEntry true]).yield (.sequenceStart anchor tag) mark
  | .flowMappingStart => (g.skip.expect [.flowKey true]).yield (.mappingStart anchor tag) mark
  | kind =>
    if indentless && kind == .blockEntry then
      (g.expect [.indentlessEntry]).yield (.sequenceStart anchor tag) mark
    else if block && kind == .blockSequenceStart then
      (g.skip.expect [.blockEntry]).yield (.sequenceStart anchor tag) mark
    else if block && kind == .blockMappingStart then
      (g.skip.expect [.blockKey]).yield (.mappingStart anchor tag) mark
    else if anchor.isSome || tag.isSome then g.yield (.scalar anchor tag unresolved "") mark
    else complain (.expectedContent kind.label) token.start

/-- A node. -/
def stepNode (block indentless : Bool) (g : Grammar) : Step := do
  let token ← g.peek
  match token.kind with
  | .aliasOf name => g.skip.yield (.aliasOf name) token.start
  | _ => g.stepContent block indentless

/-- A node, unless one of some tokens shows that it is missing. Then come the next goals. -/
def stepUnless (absent : List TokenKind) (block indentless : Bool) (next : List Goal) (mark : Mark)
    (g : Grammar) : Step := do
  let token ← g.peek
  let g := g.expect next
  if absent.contains token.kind then g.yieldEmpty mark else g.stepNode block indentless

/-! ## Block collections -/

/-- The end of a block collection. -/
def stepBlockEnd (g : Grammar) : Step := do
  let token ← g.peek
  if token.kind = .blockEnd then g.skip.yield .collectionEnd token.start
  else complain (.expectedBlockEnd token.kind.label) token.start

/-- An entry of a block sequence, or its end. -/
def stepBlockEntry (g : Grammar) : Step := do
  let token ← g.peek
  if token.kind = .blockEntry then
    g.skip.stepUnless [.blockEntry, .blockEnd] true false [.blockEntry] token.stop
  else g.stepBlockEnd

/-- An entry of a sequence that is not indented more than the mapping around it, or its end. -/
def stepIndentlessEntry (g : Grammar) : Step := do
  let token ← g.peek
  if token.kind = .blockEntry then
    g.skip.stepUnless [.blockEntry, .key, .value, .blockEnd] true false [.indentlessEntry]
      token.stop
  else g.yield .collectionEnd token.start

/-- A key of a block mapping, or its end. -/
def stepBlockKey (g : Grammar) : Step := do
  let token ← g.peek
  if token.kind = .key then
    g.skip.stepUnless [.key, .value, .blockEnd] true true [.blockValue] token.stop
  else g.stepBlockEnd

/-- The value after a key of a block mapping. -/
def stepBlockValue (g : Grammar) : Step := do
  let token ← g.peek
  if token.kind = .value then
    g.skip.stepUnless [.key, .value, .blockEnd] true true [.blockKey] token.stop
  else (g.expect [.blockKey]).yieldEmpty token.start

/-! ## Flow collections -/

/-- The comma before an entry that is not the first. -/
def separated (first : Bool) (complaint : String → Complaint) (g : Grammar) :
    Except Failure Grammar := do
  let token ← g.peek
  if first then return g
  else if token.kind = .flowEntry then return g.skip
  else complain (complaint token.kind.label) token.start

/-- An entry of a flow sequence, or its end. -/
def stepFlowEntry (first : Bool) (g : Grammar) : Step := do
  let token ← g.peek
  if token.kind = .flowSequenceEnd then g.skip.yield .collectionEnd token.start
  else
    let g ← g.separated first .expectedSequenceEnd
    let token ← g.peek
    match token.kind with
    | .key => (g.expect [.pairKey, .flowEntry false]).yield (.mappingStart none none) token.start
    | .flowSequenceEnd => g.skip.yield .collectionEnd token.start
    | _ => (g.expect [.flowEntry false]).stepNode false false

/-- The key of a pair in a flow sequence. -/
def stepPairKey (g : Grammar) : Step := do
  let token ← g.peek
  g.skip.stepUnless [.value, .flowEntry, .flowSequenceEnd] false false [.pairValue] token.stop

/-- The value of a pair in a flow sequence. -/
def stepPairValue (g : Grammar) : Step := do
  let token ← g.peek
  if token.kind = .value then
    g.skip.stepUnless [.flowEntry, .flowSequenceEnd] false false [.pairEnd] token.stop
  else (g.expect [.pairEnd]).yieldEmpty token.start

/-- The end of a pair in a flow sequence. -/
def stepPairEnd (g : Grammar) : Step := do
  let token ← g.peek
  g.yield .collectionEnd token.start

/-- A key of a flow mapping, or its end. -/
def stepFlowKey (first : Bool) (g : Grammar) : Step := do
  let token ← g.peek
  if token.kind = .flowMappingEnd then g.skip.yield .collectionEnd token.start
  else
    let g ← g.separated first .expectedMappingEnd
    let token ← g.peek
    match token.kind with
    | .key =>
      g.skip.stepUnless [.value, .flowEntry, .flowMappingEnd] false false [.flowValue]
        token.stop
    | .flowMappingEnd => g.skip.yield .collectionEnd token.start
    | _ => (g.expect [.flowMissingValue]).stepNode false false

/-- The value after a key of a flow mapping. -/
def stepFlowValue (g : Grammar) : Step := do
  let token ← g.peek
  if token.kind = .value then
    g.skip.stepUnless [.flowEntry, .flowMappingEnd] false false [.flowKey false] token.stop
  else (g.expect [.flowKey false]).yieldEmpty token.start

/-- The missing value of a key that was not announced as one. -/
def stepFlowMissingValue (g : Grammar) : Step := do
  let token ← g.peek
  (g.expect [.flowKey false]).yieldEmpty token.start

/-! ## Documents -/

/-- Read the directives in front of a document and set its tag handles. -/
def directives (versionSeen : Bool) (handles : List (String × String)) :
    List Token → Except Failure (List (String × String) × List Token)
  | [] => .ok (handles ++ defaultHandles, [])
  | token :: rest =>
    match token.kind with
    | .directive (.version major _) =>
      if versionSeen then complain .repeatedVersion token.start
      else if major ≠ 1 then complain .unsupportedVersion token.start
      else directives true handles rest
    | .directive (.tagHandle handle uri) =>
      if (handles.lookup handle).isSome then complain (.repeatedTagHandle handle) token.start
      else directives versionSeen (handles ++ [(handle, uri)]) rest
    | .directive (.other _) => directives versionSeen handles rest
    | _ => .ok (handles ++ defaultHandles, token :: rest)

/-- Move over the lines that end documents. -/
def skipDocumentEnds (g : Grammar) : Grammar :=
  { g with ahead := { g.ahead with
      tokens := g.ahead.tokens.dropWhile fun token => token.kind == .documentEnd } }

/-- A document with a start line, or the end of the stream. -/
def stepDocument (g : Grammar) : Step := do
  let g := g.skipDocumentEnds
  let first ← g.peek
  if first.kind = .streamEnd then g.skip.yield .streamEnd first.start
  else
    let (handles, tokens) ← directives false [] g.ahead.tokens
    let g := { g with ahead := { g.ahead with tokens }, handles }
    let token ← g.peek
    if token.kind = .documentStart then
      (g.skip.expect [.content, .documentEnd]).yield .documentStart first.start
    else complain (.expectedDocumentStart token.kind.label) token.start

/-- The first document, which needs no start line. -/
def stepFirstDocument (g : Grammar) : Step := do
  let token ← g.peek
  match token.kind with
  | .directive _ | .documentStart | .streamEnd => g.stepDocument
  | _ =>
    ({ g with handles := defaultHandles }.expect [.node true false, .documentEnd]).yield
      .documentStart token.start

/-- The content of a document, which may be missing. -/
def stepDocumentContent (g : Grammar) : Step := do
  let token ← g.peek
  if token.kind.boundsDocument then g.yieldEmpty token.start else g.stepNode true false

/-- The end of a document. -/
def stepDocumentEnd (g : Grammar) : Step := do
  let token ← g.peek
  let g := if token.kind = .documentEnd then g.skip else g
  (g.expect [.document]).yield .documentEnd token.start

/-- The step for a goal. -/
def stepGoal : Goal → Grammar → Step
  | .streamStart, g => (g.skip.expect [.firstDocument]).yield .streamStart {}
  | .firstDocument, g => g.stepFirstDocument
  | .document, g => g.stepDocument
  | .content, g => g.stepDocumentContent
  | .documentEnd, g => g.stepDocumentEnd
  | .node block indentless, g => g.stepNode block indentless
  | .blockEntry, g => g.stepBlockEntry
  | .indentlessEntry, g => g.stepIndentlessEntry
  | .blockKey, g => g.stepBlockKey
  | .blockValue, g => g.stepBlockValue
  | .flowEntry first, g => g.stepFlowEntry first
  | .pairKey, g => g.stepPairKey
  | .pairValue, g => g.stepPairValue
  | .pairEnd, g => g.stepPairEnd
  | .flowKey first, g => g.stepFlowKey first
  | .flowValue, g => g.stepFlowValue
  | .flowMissingValue, g => g.stepFlowMissingValue

end Grammar

/-- The events that can be read, and why there are no more, unless the stream ends there. -/
structure EventStream where
  events : List Event
  failure : Option Failure := none

namespace EventStream

/-- Do steps until no goal is left or one fails. -/
def readFrom : Nat → Grammar → EventStream
  | 0, _ => { events := [] }
  | fuel + 1, g =>
    match g.goals with
    | [] => { events := [] }
    | goal :: rest =>
      match Grammar.stepGoal goal { g with goals := rest } with
      | .error failure => { events := [], failure := some failure }
      | .ok (event, g) =>
        let stream := readFrom fuel g
        { stream with events := event :: stream.events }

/-- The events of a token stream. A token is passed within a few steps. -/
def ofTokens (stream : TokenStream) : EventStream :=
  readFrom (4 * stream.tokens.length + 16) { ahead := stream }

end EventStream

end SchemaCompiler.Yaml
