/-!
# Searching and cutting text

Plain substring search, replacement of single characters, and cutting at a separator. Text is a
list of characters here, so that each function is a recursion on what it reads.
-/

namespace Checkup.Text

def occursIn (needle : List Char) : List Char → Bool
  | [] => needle.isEmpty
  | c :: cs => needle.isPrefixOf (c :: cs) || occursIn needle cs

def contains (text needle : String) : Bool :=
  occursIn needle.toList text.toList

def without (c : Char) (cs : List Char) : List Char :=
  cs.filter (· != c)

def substitute (old new : Char) (cs : List Char) : List Char :=
  cs.map fun c => if c == old then new else c

/-- The pieces between the separators; one more piece than there are separators. -/
def cut (separator : Char) : List Char → List (List Char)
  | [] => [[]]
  | c :: cs =>
    if c == separator then [] :: cut separator cs
    else match cut separator cs with
      | [] => [[c]]
      | piece :: pieces => (c :: piece) :: pieces

def cutText (separator : Char) (s : String) : List String :=
  (cut separator s.toList).map String.ofList

def after? (start : List Char) (cs : List Char) : Option (List Char) :=
  if start.isPrefixOf cs then some (cs.drop start.length) else none

def clip (n : Nat) (s : String) : String :=
  String.ofList (s.toList.take n)

/-- Letters of the basic alphabet in lower case; every other character stays. -/
def lower (s : String) : String :=
  s.map Char.toLower

def precedes : List Char → List Char → Bool
  | [], _ => true
  | _ :: _, [] => false
  | c :: cs, d :: ds => if c.toNat == d.toNat then precedes cs ds else c.toNat < d.toNat

theorem cut_ne_nil (separator : Char) (cs : List Char) : cut separator cs ≠ [] := by
  induction cs with
  | nil => simp [cut]
  | cons c cs ih =>
    unfold cut
    split
    · simp
    · split <;> simp

end Checkup.Text
