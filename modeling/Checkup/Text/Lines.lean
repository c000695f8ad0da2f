/-!
# Lines of text

A line ends at a line feed, a carriage return, the two together, a vertical tab, a form feed, an
information separator (file, group, record), NEL, or the Unicode line or paragraph separator. The
text after the last line break is a line only when it is not empty.
-/

namespace Checkup.Text

def isLineBreak (c : Char) : Bool :=
  let n := c.toNat
  (10 ≤ n && n ≤ 13) || (28 ≤ n && n ≤ 30) || n == 133 || n == 8232 || n == 8233

/-- The lines of the text, `pending` being the start of the current one, last character first. -/
def linesFrom (pending : List Char) : List Char → List (List Char)
  | [] => if pending.isEmpty then [] else [pending.reverse]
  | '\r' :: '\n' :: cs => pending.reverse :: linesFrom [] cs
  | c :: cs =>
    if isLineBreak c then pending.reverse :: linesFrom [] cs else linesFrom (c :: pending) cs

def lines (s : String) : List String :=
  (linesFrom [] s.toList).map String.ofList

end Checkup.Text
