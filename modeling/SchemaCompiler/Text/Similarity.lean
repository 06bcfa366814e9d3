/-!
# Similar texts

Two texts are compared by the blocks that they share: first the longest one, then, on each side of
it, the longest again, and so on. Their similarity is the number of characters in shared blocks, on
both sides, by the number of all characters.
-/

namespace SchemaCompiler.Text

/-- The number of characters with which two texts start alike. -/
def commonStart : List Char → List Char → Nat
  | a :: left, b :: right => if a == b then commonStart left right + 1 else 0
  | _, _ => 0

/-- A block that two texts share: where it starts in each of them, and its size. -/
structure SharedBlock where
  left : Nat := 0
  right : Nat := 0
  size : Nat := 0
  deriving DecidableEq, Repr

/-- The longest block that two texts share; of several the one that comes first on the left, then on
the right. -/
def longestBlock (left right : List Char) : SharedBlock :=
  let blocks := (List.range left.length).flatMap fun i => (List.range right.length).map fun j =>
    { left := i, right := j, size := commonStart (left.drop i) (right.drop j) : SharedBlock }
  blocks.foldl (fun best block => if best.size < block.size then block else best) {}

/-- The number of characters in the blocks that two texts share. What is left on each side of a
block is shorter than the text, whose length bounds the steps. -/
def sharedWithin : Nat → List Char → List Char → Nat
  | 0, _, _ => 0
  | steps + 1, left, right =>
    let block := longestBlock left right
    if block.size = 0 then 0
    else
      sharedWithin steps (left.take block.left) (right.take block.right) + block.size +
        sharedWithin steps (left.drop (block.left + block.size))
          (right.drop (block.right + block.size))

/-- How similar two texts are, as a fraction. -/
structure Similarity where
  part : Nat
  whole : Nat
  deriving DecidableEq, Repr

/-- The similarity of two texts. -/
def similarity (left right : List Char) : Similarity :=
  { part := 2 * sharedWithin left.length left right, whole := left.length + right.length }

namespace Similarity

/-- Is one similarity less than another? -/
def isLess (a b : Similarity) : Bool := a.part * b.whole < b.part * a.whole

/-- Is the similarity large enough to take one text for the other? -/
def isClose (a : Similarity) : Bool := 3 * a.whole ≤ 5 * a.part

end Similarity

/-- The most that the similarity of two texts can be, going by their lengths. -/
def similarityBound (left right : List Char) : Similarity :=
  { part := 2 * min left.length right.length, whole := left.length + right.length }

/-- The texts that are closest to a text, at most three of them, in alphabetical order. Of equally
similar ones the last in the alphabet count first. -/
def closestTexts (text : String) (candidates : List String) : List String :=
  let possible := candidates.filter fun candidate =>
    (similarityBound candidate.toList text.toList).isClose
  let scored := possible.map fun candidate => (similarity candidate.toList text.toList, candidate)
  let before (a b : Similarity × String) : Bool :=
    b.1.isLess a.1 || (!a.1.isLess b.1 && !decide (a.2 < b.2))
  let best := ((scored.filter (·.1.isClose)).mergeSort before).take 3
  (best.map (·.2)).mergeSort fun a b => !decide (b < a)

end SchemaCompiler.Text
