import SchemaCompiler.Document.Scalar

/-!
# Document trees

A document is a tree of scalars, sequences and mappings. A mapping keeps its entries in order, and a
key may occur more than once; looking a key up gives the first entry. Every node knows the line it
starts on. A tree put together by hand can leave a place open; a document that is loaded never does.
-/

namespace SchemaCompiler.Document

/-- A node of a document. -/
inductive Node where
  | scalar (line : Int) (value : Scalar)
  | sequence (line : Int) (items : List Node)
  | mapping (line : Int) (entries : List (String × Node))
  /-- An open place: no node. -/
  | absent
  deriving Repr, Inhabited

/-- The entries of a mapping. -/
abbrev Entries := List (String × Node)

namespace Node

/-- The line on which a node starts, if there is a node. -/
def line? : Node → Option Int
  | scalar line _ => some line
  | sequence line _ => some line
  | mapping line _ => some line
  | absent => none

/-- The node, if there is one. -/
def present? : Node → Option Node
  | absent => none
  | node => some node

/-- A node that is there is the node itself. -/
theorem eq_of_present? {place node : Node} (found : place.present? = some node) : place = node := by
  cases place <;> simp_all [present?]

/-- The entries, if the node is a mapping. -/
def entries? : Node → Option Entries
  | mapping _ entries => some entries
  | _ => none

/-- The value, if the node is a scalar. -/
def scalar? : Node → Option Scalar
  | scalar _ value => some value
  | _ => none

end Node

namespace Entries

/-- The first value under a key. A key with an open place has no value. -/
def get? (entries : Entries) (key : String) : Option Node := (entries.lookup key).bind Node.present?

/-- Does the key occur? -/
def contains (entries : Entries) (key : String) : Bool := (entries.lookup key).isSome

/-- The keys in order. -/
def keys (entries : Entries) : List String := entries.map (·.1)

/-- The scalar under a key; null if the key is missing or its value is no scalar. -/
def scalar (entries : Entries) (key : String) : Scalar :=
  ((entries.get? key).bind Node.scalar?).getD .null

/-- A value found in a mapping is smaller than the mapping. -/
theorem sizeOf_lt_of_get? {entries : Entries} {key : String} {node : Node}
    (found : entries.get? key = some node) : sizeOf node < sizeOf entries := by
  induction entries with
  | nil => simp [get?] at found
  | cons entry rest ih =>
    obtain ⟨name, value⟩ := entry
    simp only [get?, List.lookup_cons] at found
    split at found
    · cases Node.eq_of_present? found
      simp
      omega
    · have := ih found
      simp
      omega

end Entries

end SchemaCompiler.Document
