import SchemaCompiler.Text.Quoted

/-!
# Errors of a schema document

An error has a cause and a location. The cause says what is wrong and belongs to one kind of error;
the location says where: the document, the declaration, the field and the line, as far as they are
known.
-/

namespace SchemaCompiler.Schema

/-- The kinds of errors. -/
inductive ErrorKind where
  | malformedDocument
  | duplicateName
  | unknownReference
  | unsupportedType
  | referenceCycle
  | invalidArgument
  | unsupportedConstraint
  | emptyEnumeration
  | duplicateEnumerationValue
  deriving DecidableEq, Repr

/-- What is wrong with a document. Values are given in the form in which messages show them. -/
inductive Cause where
  -- loading
  | unreadable (detail : String)
  | invalidYaml (detail : String)
  | emptyDocument
  | recursiveAlias
  | unfinished
  | keyNotScalar
  | mergeNotMapping
  | invalidScalar (text detail : String)
  -- finding the declarations
  | rootNotMapping
  | lookupInNonMapping (path : String)
  | missingSection (path : String)
  | sectionNotMapping (path : String)
  -- declarations
  | unusableTypeName (name : String)
  | declarationNotMapping
  | referenceNotText
  | declarationWithoutType
  | unsupportedDeclaration (shown : String)
  | declaredTwice (name : String)
  | sameTypeName (first second typeName : String)
  | typeExists (name : String)
  -- references
  | externalReference (reference : String)
  | unknownReference (reference : String)
  | unknownToken (token : String) (field : Option String)
  | unresolvedReference (name : String)
  | aliasCycle (names : List String)
  -- bodies
  | propertiesNotMapping
  | unusableFieldName (name : String)
  | sameFieldName (first second fieldName : String)
  | propertyNotMapping
  | requiredNotBool
  | propertyWithoutType (path : String)
  | unsupportedProperty (shown path : String)
  | itemsNotMapping
  | noEnumerationValues
  | enumerationNotList
  | enumerationValueNotScalar
  | unusableEnumerationValue (shown : String)
  | sameConstant (first second constant : String)
  -- constraints
  | validateNotList
  | validateEntryNotMapping
  | unknownPattern (shown : String)
  | lengthExpected (pattern got : String)
  | regexExpected (got : String)
  | invalidRegex (shown detail : String)
  -- rendering
  | inexpressible (type language : String)
  | notEmittable (type : String)
  | reservedName (name : String)
  | sameFile (first second file : String)
  | generatedElsewhere (name document : String)
  deriving DecidableEq, Repr

namespace Cause

/-- The kind of error that a cause belongs to. -/
def kind : Cause → ErrorKind
  | unreadable _ | invalidYaml _ | emptyDocument | recursiveAlias | unfinished | keyNotScalar
  | mergeNotMapping | invalidScalar _ _ | rootNotMapping | lookupInNonMapping _ | missingSection _ |
      sectionNotMapping _
  | unusableTypeName _ | declarationNotMapping | referenceNotText | propertiesNotMapping
  | unusableFieldName _ | propertyNotMapping | requiredNotBool | enumerationNotList
  | enumerationValueNotScalar | unusableEnumerationValue _ | validateNotList
  | validateEntryNotMapping => .malformedDocument
  | declaredTwice _ | sameTypeName _ _ _ | typeExists _ | sameFieldName _ _ _ | reservedName _
  | sameFile _ _ _ | generatedElsewhere _ _ => .duplicateName
  | externalReference _ | unknownReference _ | unresolvedReference _ => .unknownReference
  | declarationWithoutType | unsupportedDeclaration _ | unknownToken _ _ | propertyWithoutType _
  | unsupportedProperty _ _ | itemsNotMapping | inexpressible _ _
  | notEmittable _ => .unsupportedType
  | aliasCycle _ => .referenceCycle
  | lengthExpected _ _ | regexExpected _ | invalidRegex _ _ => .invalidArgument
  | unknownPattern _ => .unsupportedConstraint
  | noEnumerationValues => .emptyEnumeration
  | sameConstant _ _ _ => .duplicateEnumerationValue

/-- The wording of a cause. -/
def message : Cause → String
  | unreadable detail => s!"Cannot read schema document: {detail}"
  | invalidYaml detail => s!"Invalid YAML: {detail}"
  | emptyDocument => "Document is empty"
  | recursiveAlias => "Recursive YAML alias"
  | unfinished => "Document has no end"
  | keyNotScalar => "Mapping keys must be scalars"
  | mergeNotMapping => "Merge keys (<<) must refer to mappings"
  | invalidScalar text detail => s!"Invalid scalar {Text.quoted text}: {detail}"
  | rootNotMapping => "Top level of a schema document must be a mapping"
  | lookupInNonMapping path => s!"'{path}' cannot be looked up in a non-mapping value"
  | missingSection path => s!"Missing '{path}' section"
  | sectionNotMapping path => s!"'{path}' must map type names to declarations"
  | unusableTypeName name => s!"'{name}' is not a usable type name"
  | declarationNotMapping => "Declaration must be a mapping"
  | referenceNotText => "'$ref' must be a string"
  | declarationWithoutType => "Declaration has neither 'type' nor '$ref'"
  | unsupportedDeclaration shown => s!"Unsupported type: {shown}"
  | declaredTwice name => s!"Type '{name}' is declared more than once"
  | sameTypeName first second typeName =>
    s!"Declarations '{first}' and '{second}' both generate type '{typeName}'"
  | typeExists name => s!"Type '{name}' already exists"
  | externalReference reference =>
    s!"Only local references of the form '#/<path>/<name>' are supported, got '{reference}'"
  | unknownReference reference => s!"Unknown reference: {reference}"
  | unknownToken token field =>
    let place := match field with
      | some field => if field.isEmpty then "" else s!" for property {field}"
      | none => ""
    s!"Unsupported type: {token}{place}"
  | unresolvedReference name => s!"Unresolved reference: {name}"
  | aliasCycle names => "Alias cycle: " ++ " -> ".intercalate names
  | propertiesNotMapping => "'properties' must be a mapping"
  | unusableFieldName name => s!"'{name}' is not a usable field name"
  | sameFieldName first second fieldName =>
    s!"Properties '{first}' and '{second}' both generate field '{fieldName}'"
  | propertyNotMapping => "Property must be a mapping"
  | requiredNotBool => "'required' must be true or false"
  | propertyWithoutType path => s!"Property {path} has neither 'type' nor '$ref'"
  | unsupportedProperty shown path => s!"Unsupported type: {shown} for property {path}"
  | itemsNotMapping => "'items' must be a single schema mapping"
  | noEnumerationValues => "Enumeration has no values"
  | enumerationNotList => "'enum' must be a list of values"
  | enumerationValueNotScalar => "Enumeration values must be non-null scalars"
  | unusableEnumerationValue shown => s!"Enumeration value {shown} has no identifier characters"
  | sameConstant first second constant =>
    s!"Values {first} and {second} both canonicalize to {constant}"
  | validateNotList => "'validate' must be a list"
  | validateEntryNotMapping => "'validate' entries must be mappings with 'pattern' and 'value'"
  | unknownPattern shown => s!"Unknown validation pattern {shown}"
  | lengthExpected pattern got => s!"{pattern} expects a non-negative integer, got {got}"
  | regexExpected got => s!"regex expects a string pattern, got {got}"
  | invalidRegex shown detail => s!"Invalid regular expression {shown}: {detail}"
  | notEmittable type => s!"Cannot emit {type}"
  | inexpressible type language => s!"Cannot translate {type} to a {language} type"
  | reservedName name => s!"Type name '{name}' is reserved by the validation runtime"
  | sameFile first second file => s!"Types '{first}' and '{second}' would both be written to {file}"
  | generatedElsewhere name document => s!"Type '{name}' is also generated from {document}"

end Cause

/-- Where an error is, as far as it is known. -/
structure Location where
  document : Option String := none
  declaration : Option String := none
  field : Option String := none
  line : Option Int := none
  deriving DecidableEq, Repr

namespace Location

/-- The document and the line. -/
def source? (location : Location) : Option String :=
  match location.document.filter (!·.isEmpty), location.line with
  | some document, some line => some s!"{document}:{line}"
  | some document, none => some document
  | none, some line => some s!"line {line}"
  | none, none => none

/-- The declaration and the field. -/
def subject? (location : Location) : Option String :=
  (location.declaration.filter (!·.isEmpty)).map fun declaration =>
    match location.field with
    | some field => s!"{declaration}.{field}"
    | none => declaration

/-- A message with its location in front. -/
def describe (location : Location) (message : String) : String :=
  match location.source?.toList ++ location.subject?.toList with
  | [] => message
  | parts => ", ".intercalate parts ++ ": " ++ message

/-- The location in a document, unless another document is named already. -/
def within (document : String) (location : Location) : Location :=
  { location with document := some (location.document.getD document) }

end Location

/-- An error of a schema document. -/
structure Error where
  cause : Cause
  location : Location := {}
  deriving DecidableEq, Repr

namespace Error

/-- The text of an error. -/
def text (error : Error) : String := error.location.describe error.cause.message

/-- The error in a document, unless another document is named already. -/
def within (document : String) (error : Error) : Error :=
  { error with location := error.location.within document }

end Error

end SchemaCompiler.Schema
