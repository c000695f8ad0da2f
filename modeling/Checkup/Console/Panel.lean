import Checkup.Console.Wrap
import Checkup.Text.Search

/-!
# Panels

Lines of text in a box with rounded corners, two cells of space at each side and an empty line above
and below. The box is as wide as its widest line.
-/

namespace Checkup.Panel

def fill (n : Nat) (c : Char) : String :=
  String.ofList (List.replicate n c)

def row (width : Nat) (line : List Char) : String :=
  "│  " ++ String.ofList line ++ fill (width - Text.width line) ' ' ++ "  │\n"

def rows (width : Nat) (line : String) : List String :=
  ((Text.cut '\n' line.toList).flatMap (Wrap.spread width)).map (row width)

def widest (lines : List String) : Nat :=
  (lines.map Wrap.widthOf).foldl max 0

def render (lines : List String) : String :=
  let width := widest lines
  "╭" ++ fill (width + 4) '─' ++ "╮\n" ++ row width [] ++
    String.join (lines.flatMap (rows width)) ++ row width [] ++
    "╰" ++ fill (width + 4) '─' ++ "╯\n"

end Checkup.Panel
