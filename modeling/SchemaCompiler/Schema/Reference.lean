import SchemaCompiler.Schema.SymbolTable

/-!
# References

A declared type is referred to by a pointer, whose last segment is the name of the declaration, or
by its name alone.
-/

namespace SchemaCompiler.Schema

/-- Does the reference point into its own document? -/
def isLocalPointer (reference : String) : Bool := ['#', '/'].isPrefixOf reference.toList

/-- The name that a pointer ends in. Slashes at the very end do not count. -/
def pointerTarget (reference : String) : String :=
  let stripped := reference.toList.reverse.dropWhile (· == '/')
  String.ofList (stripped.takeWhile (· != '/')).reverse

namespace SymbolTable

/-- The declared type that a pointer designates. -/
def resolvePointer (table : SymbolTable) (reference : String) (location : Location) :
    Except Error TypeExpr :=
  if isLocalPointer reference then
    match table.lookup (pointerTarget reference) with
    | some id => .ok (.named id)
    | none => .error { cause := .unknownReference reference, location }
  else .error { cause := .externalReference reference, location }

/-- The type that is declared under a name. -/
def resolveToken (table : SymbolTable) (token : String) (location : Location) :
    Except Error TypeExpr :=
  match table.lookup token with
  | some id => .ok (.named id)
  | none => .error { cause := .unknownToken token location.field, location }

/-- The declared type that a name or pointer designates. -/
def resolveName (table : SymbolTable) (name : String) (pointer : Bool) (location : Location) :
    Except Error TypeExpr :=
  if pointer then table.resolvePointer name location else table.resolveToken name location

end SymbolTable

end SchemaCompiler.Schema
