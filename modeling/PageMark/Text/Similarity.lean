import PageMark.Text.Basic

/-!
# Similarity of texts

How much of two texts agrees: the longest text that both have, and what agrees
on either side of it.
-/

namespace PageMark.Text

def commonStart : Text → Text → Nat
  | left :: lefts, right :: rights =>
      if left = right then commonStart lefts rights + 1 else 0
  | _, _ => 0

/-- A text that occurs in two others, by its places and its length. -/
structure Agreement where
  left : Nat
  right : Nat
  length : Nat
deriving DecidableEq, Repr

def Agreement.longer (first second : Agreement) : Agreement :=
  if first.length < second.length then second else first

/-- Of equally long texts, the one that comes first on the left and then on the
right counts. -/
def longestAgreement (left right : Text) : Agreement :=
  let places := (List.range left.length).flatMap fun i =>
    (List.range right.length).map fun j => (i, j)
  places.foldl (fun best place =>
    best.longer
      { left := place.1, right := place.2,
        length := commonStart (left.drop place.1) (right.drop place.2) })
    { left := 0, right := 0, length := 0 }

/-- The number of characters that agree.  Every round splits both texts, so
`fuel` is the length of the left one. -/
def agreeing : Nat → Text → Text → Nat
  | 0, _, _ => 0
  | fuel + 1, left, right =>
      let middle := longestAgreement left right
      if middle.length = 0 then 0
      else
        agreeing fuel (left.take middle.left) (right.take middle.right) + middle.length +
          agreeing fuel (left.drop (middle.left + middle.length))
            (right.drop (middle.right + middle.length))

/-- At least six tenths of all characters of both texts agree. -/
def isSimilar (left right : Text) : Bool :=
  3 * (left.length + right.length) ≤ 10 * agreeing left.length left right

/-- Whether the first text resembles `wanted` more than the second does. -/
def resemblesMore (wanted first second : Text) : Bool :=
  agreeing second.length second wanted * (first.length + wanted.length) ≤
    agreeing first.length first wanted * (second.length + wanted.length)

/-- At most three texts similar to `wanted`, most similar ones first. -/
def similarOnes (wanted : Text) (candidates : List Text) : List Text :=
  ((candidates.filter fun candidate => isSimilar candidate wanted).mergeSort
    (resemblesMore wanted)).take 3

end PageMark.Text
