import Checkup.Text.Blank
import Checkup.Text.Cluster
import Checkup.Text.Lines

/-!
# Fitting text into a width

A text is as wide as its widest line, where every line break counts. When it is laid out only line
feeds begin a new line; the other line breaks are blanks like the rest. So a text that has them may
not fit into its own width, and its words are spread over several lines. The blanks in front of the
first word are part of it, so that it can be too wide for any line; then it is cut.
-/

namespace Checkup.Wrap

def widthOf (s : String) : Nat :=
  ((Text.linesFrom [] s.toList).map Text.width).foldl max 0

/-- The words of a line, each with the blanks after it and the first with those before it; `pending`
is the start of the current one, last character first, and `hasLetter` tells whether it has anything
but blanks. -/
def wordsFrom (pending : List Char) (hasLetter : Bool) : List Char → List (List Char)
  | [] => if hasLetter then [pending.reverse] else []
  | c :: cs =>
    if !Text.isBlank c && hasLetter && pending.head?.any Text.isBlank then
      pending.reverse :: wordsFrom [c] true cs
    else wordsFrom (c :: pending) (hasLetter || !Text.isBlank c) cs

/-- Lines that are being filled: the full ones, the last first, and the one that has room left. -/
structure Filling where
  full : List (List Char)
  line : List Char
  cells : Nat

namespace Filling

def empty : Filling := ⟨[], [], 0⟩

def startLine (filling : Filling) (line : List Char) : Filling :=
  let full := if filling.line.isEmpty then filling.full else filling.line :: filling.full
  ⟨full, line, Text.width line⟩

/-- Puts a word on the line if it fits, the blanks after it set aside, and on a new one if not; a
word that is too wide for every line is cut. -/
def place (limit : Nat) (filling : Filling) (word : List Char) : Filling :=
  let needed := Text.width (Text.trimEnd word)
  if filling.cells + needed ≤ limit then
    { filling with
      line := filling.line ++ word
      cells := filling.cells + Text.width word }
  else if limit < needed then (Text.fold limit word).foldl startLine filling
  else filling.startLine word

def lines (filling : Filling) : List (List Char) :=
  (filling.line :: filling.full).reverse

end Filling

/-- The line without the blanks at its end that make it longer than the limit. -/
def trimExcess (limit : Nat) (line : List Char) : List Char :=
  let blanks := (line.reverse.takeWhile Text.isBlank).length
  line.take (line.length - min blanks (line.length - limit))

def clip (limit : Nat) (line : List Char) : List Char :=
  let trimmed := trimExcess limit line
  if limit < Text.width trimmed then Text.fitting limit (Text.clusters trimmed) else trimmed

def spread (limit : Nat) (line : List Char) : List (List Char) :=
  match wordsFrom [] false line with
  | [] => [clip limit line]
  | words => (words.foldl (Filling.place limit) .empty).lines.map (clip limit)

end Checkup.Wrap
