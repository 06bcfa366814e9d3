import SchemaCompiler.Yaml.Graph
import SchemaCompiler.Proofs.Outcome

/-!
# The faults of composing

Composing a text can meet a value that does not exist in two places only, and both are in its
tokens: an escape can name a character beyond the last one, and a number of a version directive can
have too many digits (`TokenFault`). Everything else that is wrong with the text is a problem at a
place.

The tokens are followed function by function. The grammar and the composer add problems of their own
and pass on the failure of the tokens, which the states of the grammar carry along
(`Grammar.Sound`).
-/

namespace SchemaCompiler.Yaml

/-- The values that tokens name and that do not exist. -/
inductive TokenFault : ValueFault → Prop
  | character {code : Nat} : 0x110000 ≤ code → TokenFault (.noSuchCharacter code)
  | version {count : Nat} : Number.digitLimit < count → TokenFault (.tooManyDigits count)

/-- The failures that are problems, or one of some faults. -/
def Failure.In (allowed : ValueFault → Prop) : Failure → Prop
  | .problem _ => True
  | .value fault => allowed fault

/-- The failures of composing. -/
abbrev Failure.Composing : Failure → Prop := Failure.In TokenFault

/-- Computations that fail as composing does. -/
abbrev Composes {α : Type} (holds : α → Prop) (result : Except Failure α) : Prop :=
  Outcome Failure.Composing holds result

/-- The same with nothing said about the value. -/
abbrev Scans {α : Type} (result : Except Failure α) : Prop := Composes (fun _ => True) result

end SchemaCompiler.Yaml

namespace SchemaCompiler.Outcome

open Yaml

theorem complain {α : Type} {allowed : ValueFault → Prop} {holds : α → Prop} (complaint : Complaint)
    (mark : Mark) :
    Outcome (Failure.In allowed) holds (Yaml.complain complaint mark : Except Failure α) :=
    .error trivial

end SchemaCompiler.Outcome

namespace SchemaCompiler.Yaml

/-! ## Scalars -/

theorem escapedChar_scans (code : Nat) : Scans (escapedChar code) := by
  unfold escapedChar
  split
  next beyond => exact .error (TokenFault.character beyond)
  · exact .ok trivial

theorem quotedBreaks_scans (fuel : Nat) (cursor : Cursor) : Scans (quotedBreaks fuel cursor) := by
  induction fuel generalizing cursor with
  | zero => exact .ok trivial
  | succ fuel ih =>
      rw [quotedBreaks]
      split
      · exact .complain _ _
      · dsimp only
        split
        · exact .ok trivial
        · exact (ih _).bind fun _ _ => .ok trivial

theorem scanEscape_scans (cursor : Cursor) : Scans (scanEscape cursor) := by
  unfold scanEscape
  split
  · exact .complain _ _
  · split
    · exact .ok trivial
    · dsimp only
      split
      · exact .complain _ _
      · exact (escapedChar_scans _).bind fun _ _ => .ok trivial
    · split
      · exact quotedBreaks_scans _ _
      · exact .complain _ _

theorem quotedWord_scans (double : Bool) (fuel : Nat) (cursor : Cursor) :
    Scans (quotedWord double fuel cursor) := by
  induction fuel generalizing cursor with
  | zero => exact .ok trivial
  | succ fuel ih =>
      have continued (plain piece : List Char) (cursor : Cursor) :
          Scans (do
            let found ← quotedWord double fuel cursor
            return (plain ++ piece ++ found.1, found.2)) := (ih cursor).bind fun _ _ => .ok trivial
      rw [quotedWord]
      dsimp only
      split
      · exact .ok trivial
      · split
        · exact continued _ _ _
        split
        · exact continued _ _ _
        split
        · exact (scanEscape_scans _).bind fun _ _ => continued _ _ _
        · exact .ok trivial

theorem quotedSpaces_scans (cursor : Cursor) : Scans (quotedSpaces cursor) := by
  unfold quotedSpaces
  dsimp only
  split
  · exact .complain _ _
  · split
    · exact .ok trivial
    · exact (quotedBreaks_scans _ _).bind fun _ _ => .ok trivial

theorem quotedWords_scans (quote : Char) (fuel : Nat) (cursor : Cursor) :
    Scans (quotedWords quote fuel cursor) := by
  induction fuel generalizing cursor with
  | zero => exact .ok trivial
  | succ fuel ih =>
      rw [quotedWords]
      split
      · exact .ok trivial
      · refine (quotedSpaces_scans _).bind fun _ _ => (quotedWord_scans _ _ _).bind fun _ _ => ?_
        exact (ih _).bind fun _ _ => .ok trivial

theorem scanQuoted_scans (quote : Char) (cursor : Cursor) : Scans (scanQuoted quote cursor) :=
  (quotedWord_scans _ _ _).bind fun _ _ => (quotedWords_scans _ _ _).bind fun _ _ => .ok trivial

theorem increment?_scans (cursor : Cursor) : Scans (increment? cursor) := by
  unfold increment?
  split
  · split
    · exact .complain _ _
    split <;> exact .ok trivial
  · exact .ok trivial

theorem blockIndicators_scans (cursor : Cursor) : Scans (blockIndicators cursor) := by
  have ended (chomping : Chomping) (increment : Option Nat) (cursor : Cursor) :
      Scans (if endsWord cursor.next then pure (chomping, increment, cursor)
        else complain (.expectedBlockIndicator cursor.next) cursor.mark) :=
    .ite (.ok trivial) (.complain _ _)
  unfold blockIndicators
  dsimp only
  split
  · exact (increment?_scans _).bind fun _ _ => ended _ _ _
  · refine (increment?_scans _).bind fun _ _ => ?_
    split
    · split <;> exact ended _ _ _
    · exact ended _ _ _

theorem skipLineRest_scans (cursor : Cursor) : Scans (skipLineRest cursor) :=
  .ite (.ok trivial) (.complain _ _)

theorem scanBlock_scans (folded : Bool) (parent : Int) (cursor : Cursor) :
    Scans (scanBlock folded parent cursor) :=
  (blockIndicators_scans _).bind fun _ _ => (skipLineRest_scans _).bind fun _ _ => .ok trivial

/-! ## Anchors, tags and directives -/

theorem scanAnchorName_scans (cursor : Cursor) : Scans (scanAnchorName cursor) :=
  .ite (.complain _ _) (.ok trivial)

theorem uriBytes_scans (fuel : Nat) (cursor : Cursor) : Scans (uriBytes fuel cursor) := by
  induction fuel generalizing cursor with
  | zero => exact .ok trivial
  | succ fuel ih =>
      rw [uriBytes]
      split
      · dsimp only
        split
        · exact .complain _ _
        · exact (ih _).bind fun _ _ => .ok trivial
      · exact .ok trivial

theorem scanUriEscapes_scans (cursor : Cursor) : Scans (scanUriEscapes cursor) := by
  refine (uriBytes_scans _ _).bind fun _ _ => ?_
  dsimp only
  split
  · exact .ok trivial
  · exact .complain _ _

theorem uriPieces_scans (fuel : Nat) (cursor : Cursor) : Scans (uriPieces fuel cursor) := by
  induction fuel generalizing cursor with
  | zero => exact .ok trivial
  | succ fuel ih =>
      rw [uriPieces]
      dsimp only
      split
      · exact (scanUriEscapes_scans _).bind fun _ _ => (ih _).bind fun _ _ => .ok trivial
      · exact .ok trivial

theorem scanUri_scans (cursor : Cursor) : Scans (scanUri cursor) :=
  (uriPieces_scans _ _).bind fun _ _ => .ite (.complain _ _) (.ok trivial)

theorem scanHandle_scans (cursor : Cursor) : Scans (scanHandle cursor) :=
  .ite (.complain _ _) (.ite (.ok trivial) (.ite (.ok trivial) (.complain _ _)))

theorem scanTagName_scans (cursor : Cursor) : Scans (scanTagName cursor) := by
  have suffix (handle : String) (cursor : Cursor) :
      Scans (do
        let found ← scanUri cursor
        return (some handle, found.1, found.2)) := (scanUri_scans _).bind fun _ _ => .ok trivial
  refine .ite ((scanUri_scans _).bind fun _ _ => .ite (.ok trivial) (.complain _ _))
    (.ite (.ok trivial) ?_)
  exact .ite ((scanHandle_scans _).bind fun _ _ => suffix _ _) (suffix _ _)

theorem scanTag_scans (cursor : Cursor) : Scans (scanTag cursor) :=
  (scanTagName_scans _).bind fun _ _ => .ite (.ok trivial) (.complain _ _)

theorem scanVersionNumber_scans (cursor : Cursor) : Scans (scanVersionNumber cursor) := by
  unfold scanVersionNumber
  split
  · exact .complain _ _
  · split
    next long => exact .error (TokenFault.version long)
    · exact .ok trivial

theorem scanVersion_scans (cursor : Cursor) : Scans (scanVersion cursor) := by
  refine (scanVersionNumber_scans _).bind fun _ _ => .ite (.complain _ _) ?_
  exact (scanVersionNumber_scans _).bind fun _ _ => .ite (.ok trivial) (.complain _ _)

theorem scanTagHandle_scans (cursor : Cursor) : Scans (scanTagHandle cursor) := by
  refine (scanHandle_scans _).bind fun _ _ => .ite (.complain _ _) ?_
  exact (scanUri_scans _).bind fun _ _ => .ite (.ok trivial) (.complain _ _)

theorem scanDirective_scans (cursor : Cursor) : Scans (scanDirective cursor) := by
  have ended (found : Directive × Cursor) (rest : Cursor) :
      Scans (do
        let final ← skipLineRest rest
        return (found.1, found.2.mark, final)) := (skipLineRest_scans _).bind fun _ _ => .ok trivial
  refine .ite (.complain _ _) (.ite ((scanVersion_scans _).bind fun found _ => ended found _) ?_)
  exact .ite ((scanTagHandle_scans _).bind fun found _ => ended found _) (ended (_, _) _)

/-! ## Tokens -/

namespace Scanner

theorem dropStaleKeys_scans (s : Scanner) : Scans s.dropStaleKeys :=
  .ite (.complain _ _) (.ok trivial)

theorem dropKey_scans (s : Scanner) : Scans s.dropKey := .ite (.complain _ _) (.ok trivial)

theorem noteKey_scans (s : Scanner) : Scans s.noteKey :=
  .ite ((dropKey_scans _).bind fun _ _ => .ok trivial) (.ok trivial)

theorem endDocument_scans (s : Scanner) : Scans s.endDocument :=
  (dropKey_scans _).bind fun _ _ => .ok trivial

theorem fetchBlockEntry_scans (s : Scanner) : Scans s.fetchBlockEntry := by
  have entered (s : Scanner) : Scans (do
      let s ← s.dropKey
      return { s with allowKey := true }.emitWide .blockEntry 1) :=
        (dropKey_scans _).bind fun _ _ => .ok trivial
  exact .ite (entered _) (.ite (entered _) (.complain _ _))

theorem fetchKey_scans (s : Scanner) : Scans s.fetchKey := by
  have entered (s : Scanner) : Scans (do
      let s ← s.dropKey
      return { s with allowKey := !s.inFlow }.emitWide .key 1) :=
        (dropKey_scans _).bind fun _ _ => .ok trivial
  exact .ite (entered _) (.ite (entered _) (.complain _ _))

theorem fetchValue_scans (s : Scanner) : Scans s.fetchValue := by
  unfold fetchValue
  dsimp only
  split
  · exact .ok trivial
  · exact .ite (.ok trivial) (.ite (.ok trivial) (.complain _ _))

/-- A step that starts by looking at the possible keys, goes on to scan something and adds a
token. -/
theorem after_keys {α : Type} {keys : Except Failure Scanner} {scan : Scanner → Except Failure α}
    {add : Scanner → α → Scanner} (first : Scans keys) (second : ∀ s, Scans (scan s)) :
    Scans (do
      let s ← keys
      let found ← scan s
      return add s found) :=
  first.bind fun s _ => (second s).bind fun _ _ => .ok trivial

theorem fetchAt_scans (c : Char) (s : Scanner) : Scans (s.fetchAt c) := by
  have separator kind : Scans (s.fetchSeparator kind) :=
    (endDocument_scans _).bind fun _ _ => .ok trivial
  have opening kind : Scans (s.fetchOpening kind) := (noteKey_scans _).bind fun _ _ => .ok trivial
  have closing kind : Scans (s.fetchClosing kind) := (dropKey_scans _).bind fun _ _ => .ok trivial
  have anchor kind : Scans (s.fetchAnchor kind) :=
    after_keys (noteKey_scans _) fun _ => scanAnchorName_scans _
  have block folded : Scans (s.fetchBlock folded) :=
    after_keys (dropKey_scans _) fun _ => scanBlock_scans _ _ _
  have plain : Scans s.fetchPlain := (noteKey_scans _).bind fun _ _ => .ok trivial
  -- One line for each branch of the step, in the order of the branches.
  refine .ite (after_keys (endDocument_scans _) fun _ => scanDirective_scans _) ?_
  refine .ite (separator _) (.ite (separator _) ?_)
  refine .ite (opening _) (.ite (opening _) ?_)
  refine .ite (closing _) (.ite (closing _) ?_)
  refine .ite ((dropKey_scans _).bind fun _ _ => .ok trivial) ?_
  refine .ite (fetchBlockEntry_scans _) (.ite (fetchKey_scans _) (.ite (fetchValue_scans _) ?_))
  refine .ite (anchor _) (.ite (anchor _) ?_)
  refine .ite (after_keys (noteKey_scans _) fun _ => scanTag_scans _) ?_
  refine .ite (block _) (.ite (block _) ?_)
  refine .ite (after_keys (noteKey_scans _) fun _ => scanQuoted_scans _ _) ?_
  exact .ite plain (.ite plain (.complain _ _))

theorem fetch_scans (s : Scanner) : Scans s.fetch := by
  refine (dropStaleKeys_scans _).bind fun s _ => ?_
  dsimp only
  split
  · exact (endDocument_scans _).bind fun _ _ => .ok trivial
  · exact fetchAt_scans _ _

theorem fetchWithin_scans (source : Source) (s : Scanner) : Scans (s.fetchWithin source) := by
  unfold fetchWithin
  split
  · exact fetch_scans s
  · dsimp only
    split
    · exact .error trivial
    · exact fetch_scans s

end Scanner

/-- The failure of a stream, if it has one, is a failure of composing. -/
theorem TokenStream.scanFrom_failure {source : Source} {fuel : Nat} {s : Scanner}
    {failure : Failure} (failed : (scanFrom source fuel s).failure = some failure) :
    failure.Composing := by
  induction fuel generalizing s with
  | zero => cases failed
  | succ fuel ih =>
      rw [scanFrom] at failed
      split at failed
      · cases failed
      · split at failed
        · exact ih failed
        next other stopped =>
          cases failed
          have scans : Scans (s.fetchWithin source >>= Scanner.dropStaleKeys) :=
            (Scanner.fetchWithin_scans source s).bind fun s _ => Scanner.dropStaleKeys_scans s
          exact scans.failure _ stopped

/-! ## Events -/

namespace Grammar

/-- The failure that a state has ahead of it is one of composing. -/
def Sound (g : Grammar) : Prop := ∀ failure, g.ahead.failure = some failure → failure.Composing

/-- Steps that fail as composing does and lead to such a state. -/
abbrev Steps (step : Step) : Prop := Composes (fun found => found.2.Sound) step

variable {g : Grammar}

theorem peek_scans (sound : g.Sound) : Scans g.peek := by
  unfold peek
  split
  · exact .ok trivial
  next failure _ failed => exact .error (sound failure failed)
  · exact .ok trivial

theorem properties_composes (sound : g.Sound) :
    Composes (fun found => found.2.Sound) g.properties := by
  have skipped : g.skip.Sound := sound
  refine (peek_scans sound).bind fun _ _ => ?_
  dsimp only
  split
  · refine (peek_scans skipped).bind fun _ _ => ?_
    split <;> exact .ok sound
  · refine (peek_scans skipped).bind fun _ _ => ?_
    split <;> exact .ok sound
  · exact .ok sound

theorem resolveTag_scans (handle : Option String) (suffix : String) (mark : Mark) :
    Scans (g.resolveTag handle suffix mark) := by
  unfold resolveTag
  split
  · exact .ok trivial
  · split
    · exact .ok trivial
    · exact .complain _ _

theorem stepContent_steps (block indentless : Bool) (sound : g.Sound) :
    Steps (g.stepContent block indentless) := by
  refine (properties_composes sound).bind fun found sound => ?_
  obtain ⟨properties, g⟩ := found
  have tag : Scans (properties.tag.mapM fun tag => g.resolveTag tag.1 tag.2.1 tag.2.2) := by
    cases properties.tag with
    | none => exact .ok trivial
    | some tag => exact (resolveTag_scans _ _ _).bind fun _ _ => .ok trivial
  refine tag.bind fun _ _ => (peek_scans sound).bind fun _ _ => ?_
  dsimp only
  split
  · exact .ok sound
  · exact .ok sound
  · exact .ok sound
  · exact .ite (.ok sound) (.ite (.ok sound) (.ite (.ok sound) (.ite (.ok sound) (.complain _ _))))

theorem stepNode_steps (block indentless : Bool) (sound : g.Sound) :
    Steps (g.stepNode block indentless) := by
  refine (peek_scans sound).bind fun _ _ => ?_
  split
  · exact .ok sound
  · exact stepContent_steps _ _ sound

theorem stepUnless_steps (absent : List TokenKind) (block indentless : Bool) (next : List Goal)
    (mark : Mark) (sound : g.Sound) : Steps (g.stepUnless absent block indentless next mark) := by
  exact (peek_scans sound).bind fun _ _ => .ite (.ok sound) (stepNode_steps _ _ sound)

theorem stepBlockEnd_steps (sound : g.Sound) : Steps g.stepBlockEnd :=
  (peek_scans sound).bind fun _ _ => .ite (.ok sound) (.complain _ _)

theorem separated_composes (first : Bool) (complaint : String → Complaint) (sound : g.Sound) :
    Composes Sound (g.separated first complaint) :=
  (peek_scans sound).bind fun _ _ => .ite (.ok sound) (.ite (.ok sound) (.complain _ _))

theorem stepFlowEntry_steps (first : Bool) (sound : g.Sound) : Steps (g.stepFlowEntry first) := by
  refine (peek_scans sound).bind fun _ _ => .ite (.ok sound) ?_
  refine (separated_composes _ _ sound).bind fun g sound => (peek_scans sound).bind fun _ _ => ?_
  split
  · exact .ok sound
  · exact .ok sound
  · exact stepNode_steps _ _ sound

theorem stepFlowKey_steps (first : Bool) (sound : g.Sound) : Steps (g.stepFlowKey first) := by
  refine (peek_scans sound).bind fun _ _ => .ite (.ok sound) ?_
  refine (separated_composes _ _ sound).bind fun g sound => (peek_scans sound).bind fun _ _ => ?_
  split
  · exact stepUnless_steps _ _ _ _ _ sound
  · exact .ok sound
  · exact stepNode_steps _ _ sound

theorem directives_scans (versionSeen : Bool) (handles : List (String × String))
    (tokens : List Token) :
    Scans (directives versionSeen handles tokens) := by
  induction tokens generalizing versionSeen handles with
  | nil => exact .ok trivial
  | cons token rest ih =>
      rw [directives]
      split
      · exact .ite (.complain _ _) (.ite (.complain _ _) (ih _ _))
      · exact .ite (.complain _ _) (ih _ _)
      · exact ih _ _
      · exact .ok trivial

theorem stepDocument_steps (sound : g.Sound) : Steps g.stepDocument := by
  have ends : g.skipDocumentEnds.Sound := sound
  refine (peek_scans ends).bind fun _ _ => .ite (.ok sound) ?_
  refine (directives_scans _ _ _).bind fun found _ => ?_
  obtain ⟨handles, tokens⟩ := found
  have begun : Sound { g.skipDocumentEnds with
      ahead := { g.skipDocumentEnds.ahead with tokens }, handles } := sound
  exact (peek_scans begun).bind fun _ _ => .ite (.ok sound) (.complain _ _)

/-- Every step of the grammar keeps the failure that is ahead, and fails with that or a problem of
its own. -/
theorem stepGoal_steps (goal : Goal) (sound : g.Sound) : Steps (stepGoal goal g) := by
  have missing (goals : List Goal) (mark : Mark) : Steps ((g.expect goals).yieldEmpty mark) :=
    .ok sound
  cases goal with
  | streamStart => exact .ok sound
  | firstDocument =>
      refine (peek_scans sound).bind fun _ _ => ?_
      split
      iterate 3 exact stepDocument_steps sound
      exact .ok sound
  | document => exact stepDocument_steps sound
  | content => exact (peek_scans sound).bind fun _ _ => .ite (.ok sound) (stepNode_steps _ _ sound)
  | documentEnd =>
      refine (peek_scans sound).bind fun _ _ => .ok ?_
      dsimp only
      split <;> exact sound
  | node block indentless => exact stepNode_steps _ _ sound
  | blockEntry | blockKey =>
      exact (peek_scans sound).bind fun _ _ =>
        .ite (stepUnless_steps _ _ _ _ _ sound) (stepBlockEnd_steps sound)
  | indentlessEntry =>
      exact (peek_scans sound).bind fun _ _ => .ite (stepUnless_steps _ _ _ _ _ sound) (.ok sound)
  | blockValue | pairValue | flowValue =>
      exact (peek_scans sound).bind fun _ _ => .ite (stepUnless_steps _ _ _ _ _ sound) (missing _ _)
  | flowEntry first => exact stepFlowEntry_steps _ sound
  | pairKey => exact (peek_scans sound).bind fun _ _ => stepUnless_steps _ _ _ _ _ sound
  | pairEnd => exact (peek_scans sound).bind fun _ _ => .ok sound
  | flowKey first => exact stepFlowKey_steps _ sound
  | flowMissingValue => exact (peek_scans sound).bind fun _ _ => missing _ _

end Grammar

theorem EventStream.readFrom_failure {fuel : Nat} {g : Grammar} {failure : Failure}
    (sound : g.Sound) (failed : (readFrom fuel g).failure = some failure) : failure.Composing := by
  induction fuel generalizing g with
  | zero => cases failed
  | succ fuel ih =>
      rw [readFrom] at failed
      split at failed
      · cases failed
      next goal rest _ =>
        have steps : Grammar.Steps (Grammar.stepGoal goal { g with goals := rest }) :=
          Grammar.stepGoal_steps goal sound
        split at failed
        next other stopped =>
          cases failed
          exact steps.failure _ stopped
        next event next stepped => exact ih (steps.value _ stepped) failed

/-! ## Composing -/

theorem Composer.step_scans (c : Composer) (event : Event) : Scans (c.step event) := by
  have added (anchor : Option String) (node : Composed) : Scans (c.add anchor node) :=
    .ite (.complain _ _) (.ok trivial)
  have opened (anchor : Option String) (node : Composed) : Scans (c.openCollection anchor node) :=
    (added anchor node).bind fun _ _ => .ok trivial
  unfold step
  split
  · exact .ok trivial
  · exact .ok trivial
  · exact .ite (.complain _ _) (.ok trivial)
  · exact .ok trivial
  · split
    · exact .ok trivial
    · exact .complain _ _
  · exact added _ _
  · exact opened _ _
  · exact opened _ _
  · exact .ok trivial

theorem Composer.foldlM_scans (events : List Event) (c : Composer) :
    Scans (events.foldlM Composer.step c) := by
  induction events generalizing c with
  | nil => exact .ok trivial
  | cons event rest ih =>
      rw [List.foldlM_cons]
      exact (step_scans c event).bind fun c _ => ih c

/-- The graph of a text: composing it ends in a fault only if a token names a value that does not
exist. -/
theorem Graph.ofText_scans (text : List Char) : Scans (Graph.ofText text) := by
  refine (Composer.foldlM_scans _ _).bind fun _ _ => ?_
  split
  next failure failed =>
    refine .error (EventStream.readFrom_failure (fun other ahead => ?_) failed)
    exact TokenStream.scanFrom_failure ahead
  · exact .ok trivial

end SchemaCompiler.Yaml
