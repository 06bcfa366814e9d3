import SchemaCompiler.Yaml.Mark

/-!
# Tokens

A YAML text is a sequence of tokens. Indentation appears as tokens of its own: collections in block
style have a start and an end token, and every key and value is announced.
-/

namespace SchemaCompiler.Yaml

/-- What a directive line says. -/
inductive Directive where
  | version (major minor : Nat)
  | tagHandle (handle uri : String)
  | other (name : String)
  deriving DecidableEq, Repr

/-- What a token is. -/
inductive TokenKind where
  | streamStart
  | streamEnd
  | directive (value : Directive)
  | documentStart
  | documentEnd
  | blockSequenceStart
  | blockMappingStart
  | blockEnd
  | flowSequenceStart
  | flowMappingStart
  | flowSequenceEnd
  | flowMappingEnd
  | key
  | value
  | blockEntry
  | flowEntry
  | aliasOf (name : String)
  | anchor (name : String)
  | tag (handle : Option String) (suffix : String)
  | scalar (text : String) (plain : Bool)
  deriving DecidableEq, Repr

/-- A token and the places where it starts and stops. -/
structure Token where
  kind : TokenKind
  start : Mark
  stop : Mark
  deriving DecidableEq, Repr

/-- How messages name a token. -/
def TokenKind.label : TokenKind → String
  | streamStart => "<stream start>"
  | streamEnd => "<stream end>"
  | directive _ => "<directive>"
  | documentStart => "<document start>"
  | documentEnd => "<document end>"
  | blockSequenceStart => "<block sequence start>"
  | blockMappingStart => "<block mapping start>"
  | blockEnd => "<block end>"
  | flowSequenceStart => "["
  | flowMappingStart => "\x7b"
  | flowSequenceEnd => "]"
  | flowMappingEnd => "\x7d"
  | key => "?"
  | value => ":"
  | blockEntry => "-"
  | flowEntry => ","
  | aliasOf _ => "<alias>"
  | anchor _ => "<anchor>"
  | tag _ _ => "<tag>"
  | scalar _ _ => "<scalar>"

/-- Is the token one of those that open or close a document, or the stream's end? -/
def TokenKind.boundsDocument : TokenKind → Bool
  | directive _ | documentStart | documentEnd | streamEnd => true
  | _ => false

end SchemaCompiler.Yaml
