import Checkup.Text.Search

/-!
# File patterns

A pattern stands for whole paths. A star matches any text, also across slashes, a question mark any
character, and brackets a set of characters with ranges, negated by an exclamation mark. Nothing
escapes a special character, and an opening bracket that is never closed is an ordinary character.
-/

namespace Checkup.Glob

/-- A set of characters: those named and those in the ranges, or all others. -/
structure CharSet where
  negated : Bool
  single : List Char
  ranges : List (Char × Char)
  deriving DecidableEq, Repr

inductive Piece
  | anyText
  | anyChar
  | char (c : Char)
  | oneOf (set : CharSet)
  | never
  deriving DecidableEq, Repr

namespace CharSet

def holds (set : CharSet) (c : Char) : Bool :=
  let found := set.single.contains c ||
    set.ranges.any fun (low, high) => low.toNat ≤ c.toNat && c.toNat ≤ high.toNat
  found != set.negated

/-- The parts of a bracket's inside between the hyphens that make ranges. A hyphen makes a range
when a character stands before it and two or more before it belong to the part since the last such
hyphen; `skip` counts the characters that cannot be one. -/
def partsFrom (skip : Nat) (part : List Char) : List Char → List (List Char)
  | [] => [part.reverse]
  | c :: cs =>
    if skip == 0 && c == '-' then part.reverse :: partsFrom 2 [] cs
    else partsFrom (skip - 1) (c :: part) cs

/-- The parts, where a hyphen at the very end is a character of the last part. -/
def closeParts : List (List Char) → List (List Char)
  | [part, []] => [part ++ ['-']]
  | part :: rest => part :: closeParts rest
  | [] => []

/-- The parts without the ranges that run backwards: both ends of such a range go. -/
def joinParts : List (List Char) → List (List Char)
  | [] => []
  | part :: rest =>
    match joinParts rest with
    | [] => [part]
    | next :: others =>
      match part.getLast?, next.head? with
      | some low, some high =>
        if high.toNat < low.toNat then (part.dropLast ++ next.drop 1) :: others
        else part :: next :: others
      | _, _ => part :: next :: others

/-- The ranges from the end of each part to the start of the next. -/
def rangesOf : List (List Char) → List (Char × Char)
  | part :: next :: rest =>
    match part.getLast?, next.head? with
    | some low, some high => (low, high) :: rangesOf (next :: rest)
    | _, _ => rangesOf (next :: rest)
  | _ => []

def ofParts (negated : Bool) (parts : List (List Char)) : CharSet :=
  ⟨negated, parts.flatten, rangesOf parts⟩

end CharSet

def bracket (inside : List Char) : Piece :=
  let skip := if inside.head? == some '!' then 2 else 1
  match CharSet.joinParts (CharSet.closeParts (CharSet.partsFrom skip [] inside)) with
  | [[]] => .never
  | [['!']] => .anyChar
  | ('!' :: part) :: parts => .oneOf (.ofParts true (part :: parts))
  | parts => .oneOf (.ofParts false parts)

def takeChar (c : Char) : List Char → List Char × List Char
  | d :: cs => if d == c then ([d], cs) else ([], d :: cs)
  | [] => ([], [])

/-- The inside of a bracket and the text after it; a closing bracket in the first place, or right
after the exclamation mark, belongs to the inside. -/
def inside? (cs : List Char) : Option (List Char × List Char) :=
  let (mark, afterMark) := takeChar '!' cs
  let (first, afterFirst) := takeChar ']' afterMark
  match afterFirst.span (· != ']') with
  | (body, _ :: rest) => some (mark ++ first ++ body, rest)
  | (_, []) => none

def piecesFrom : Nat → List Char → List Piece
  | 0, _ => []
  | _ + 1, [] => []
  | fuel + 1, '*' :: cs => .anyText :: piecesFrom fuel cs
  | fuel + 1, '?' :: cs => .anyChar :: piecesFrom fuel cs
  | fuel + 1, '[' :: cs =>
    match inside? cs with
    | some (inside, rest) => bracket inside :: piecesFrom fuel rest
    | none => .char '[' :: piecesFrom fuel cs
  | fuel + 1, c :: cs => .char c :: piecesFrom fuel cs

def pieces (pattern : String) : List Piece :=
  piecesFrom pattern.toList.length pattern.toList

def Piece.fits (c : Char) : Piece → Bool
  | anyText | anyChar => true
  | char d => c == d
  | oneOf set => set.holds c
  | never => false

def someEnding (test : List Char → Bool) : List Char → Bool
  | [] => test []
  | c :: cs => test (c :: cs) || someEnding test cs

def matchesPieces : List Piece → List Char → Bool
  | [], cs => cs.isEmpty
  | .anyText :: rest, cs => someEnding (matchesPieces rest) cs
  | piece :: rest, cs =>
    match cs with
    | [] => false
    | c :: more => piece.fits c && matchesPieces rest more

def accepts (pattern path : String) : Bool :=
  matchesPieces (pieces pattern) path.toList

end Checkup.Glob
