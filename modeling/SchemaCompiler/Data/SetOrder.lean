import SchemaCompiler.Data.Value

/-!
# The order of sets

A set is shown in the order in which its members lie in a table. A number is put at the place that
its hash gives, or at the next place tried when that one is taken. Other members have no settled
place, and a set with such members keeps the order in which they came.
-/

namespace SchemaCompiler.Data

/-- The prime `2 ^ 61 - 1`, modulo which numbers are hashed. -/
def hashModulus : Nat := 2305843009213693951

/-- The hash of a magnitude with a sign. The number -1 is no hash, -2 takes its place. -/
def signedHash (negative : Bool) (magnitude : Nat) : Int :=
  let rest : Int := (magnitude % hashModulus : Nat)
  let hash := if negative then -rest else rest
  if hash = -1 then -2 else hash

/-- The hash of infinity. -/
def infiniteHash : Int := 314159

/-- The hash of a number. Modulo the prime, powers of two repeat after 61 steps, so that fractions
have a remainder too. -/
def hash? : Value → Option Int
  | .bool value => some (if value then 1 else 0)
  | .int value => some (signedHash (value < 0) value.natAbs)
  | .float (.finite negative mantissa exponent) =>
    some (signedHash negative (mantissa * Nat.pow 2 (exponent % 61).toNat))
  | .float (.infinite negative) => some (if negative then -infiniteHash else infiniteHash)
  | _ => none

/-- The number of places in the table of a set with some members: a power of two. -/
def tableSize (count : Nat) : Nat :=
  if count < 5 then 8 else Nat.pow 2 ((2 * count).log2 + 1)

/-- How many places in a row are tried, if the table is large enough. -/
def placesInRow : Nat := 10

/-- The first free place for a hash. After a row of places, the next row starts elsewhere, which
further bits of the hash decide about. -/
def freePlace (table : Array (Option Value)) : Nat → Nat → Nat → Nat
  | 0, place, _ => place
  | fuel + 1, place, bits =>
    let row := if place + placesInRow ≤ table.size then placesInRow else 1
    match (List.range row).find? fun step => (table[place + step]?.join).isNone with
    | some step => place + step
    | none =>
      let bits := bits / 32
      freePlace table fuel ((place * 5 + 1 + bits) % table.size) bits

/-- Put a member with a hash into a table. -/
def putMember (table : Array (Option Value)) (member : Value × Int) : Array (Option Value) :=
  let bits := (member.2 % 18446744073709551616).toNat
  let place := freePlace table (table.size + 64) (bits % table.size) bits
  table.setIfInBounds place (some member.1)

/-- The members of a set in the order in which they are shown. -/
def setOrder (members : List Value) : List Value :=
  match members.mapM fun member => (hash? member).map (member, ·) with
  | none => members
  | some hashed =>
    (hashed.foldl putMember (Array.replicate (tableSize members.length) none)).toList.filterMap id

end SchemaCompiler.Data
