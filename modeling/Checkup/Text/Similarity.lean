/-!
# Similar words

Two words are compared by the blocks they share: the longest common block, then the longest ones to
its left and to its right, and so on. Words are close when twice the length of the blocks is at
least six tenths of the length of both words.
-/

namespace Checkup.Text.Similarity

def commonLength : List Char → List Char → Nat
  | a :: as, b :: bs => if a == b then commonLength as bs + 1 else 0
  | _, _ => 0

/-- A common block: where it starts in each word, and how long it is. -/
structure Block where
  left : Nat
  right : Nat
  length : Nat
  deriving Repr, DecidableEq

/-- The longest block that starts at `left` in the first word; of equal ones the first. -/
def longestFrom (left : Nat) (a : List Char) (right : Nat) (best : Block) : List Char → Block
  | [] => best
  | b :: bs =>
    let length := commonLength a (b :: bs)
    longestFrom left a (right + 1) (if best.length < length then ⟨left, right, length⟩ else best) bs

def longest (left : Nat) (best : Block) (b : List Char) : List Char → Block
  | [] => best
  | a :: as => longest (left + 1) (longestFrom left (a :: as) 0 best b) b as

/-- The length of all shared blocks; `fuel` bounds how deep they lie. -/
def shared : Nat → List Char → List Char → Nat
  | 0, _, _ => 0
  | fuel + 1, a, b =>
    let block := longest 0 ⟨0, 0, 0⟩ b a
    if block.length == 0 then 0
    else block.length + shared fuel (a.take block.left) (b.take block.right) +
      shared fuel (a.drop (block.left + block.length)) (b.drop (block.right + block.length))

/-- Whether a number of shared characters makes words of this total length close. -/
def isEnough (count total : Nat) : Bool :=
  3 * total ≤ 10 * count

/-- How many characters close words share; none for words that are not close. -/
def closeness? (a b : String) : Option Nat :=
  let total := a.length + b.length
  if isEnough (min a.length b.length) total then
    let count := shared a.length a.toList b.toList
    if isEnough count total then some count else none
  else none

def isBetter (word : String) (x y : String × Nat) : Bool :=
  let left := x.2 * (y.1.length + word.length)
  let right := y.2 * (x.1.length + word.length)
  right < left || (left == right && y.1 ≤ x.1)

def closest (word : String) (known : List String) : List String :=
  let scored := known.filterMap fun k => (closeness? k word).map (k, ·)
  ((scored.mergeSort (isBetter word)).take 3).map (·.1)

end Checkup.Text.Similarity
