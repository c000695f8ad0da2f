/-!
# Blank characters

Trimming removes the white space of Unicode and the four information separators. Trimmed text has
no blank at either end, and trimming again changes nothing.
-/

namespace Checkup.Text

/-- The white space of Unicode together with the information separators U+001C to U+001F. -/
def isBlank (c : Char) : Bool :=
  let n := c.toNat
  (9 ≤ n && n ≤ 13) || (28 ≤ n && n ≤ 32) || n == 133 || n == 160 || n == 5760 ||
    (8192 ≤ n && n ≤ 8202) || n == 8232 || n == 8233 || n == 8239 || n == 8287 || n == 12288

def trimEnd (cs : List Char) : List Char :=
  (cs.reverse.dropWhile isBlank).reverse

def trim (cs : List Char) : List Char :=
  trimEnd (cs.dropWhile isBlank)

/-- The words of the text, `pending` being the start of the current one, last character first. -/
def wordsFrom (pending : List Char) : List Char → List (List Char)
  | [] => if pending.isEmpty then [] else [pending.reverse]
  | c :: cs =>
    if !isBlank c then wordsFrom (c :: pending) cs
    else if pending.isEmpty then wordsFrom [] cs
    else pending.reverse :: wordsFrom [] cs

def words (cs : List Char) : List (List Char) :=
  wordsFrom [] cs

def strip (s : String) : String :=
  String.ofList (trim s.toList)

theorem isBlank_head_dropWhile {cs rest : List Char} {c : Char}
    (hrest : cs.dropWhile isBlank = c :: rest) : isBlank c = false := by
  have hhead := List.head?_dropWhile_not isBlank cs
  rw [hrest] at hhead
  exact hhead

theorem dropWhile_dropWhile_isBlank (cs : List Char) :
    (cs.dropWhile isBlank).dropWhile isBlank = cs.dropWhile isBlank := by
  cases hrest : cs.dropWhile isBlank with
  | nil => rfl
  | cons c rest => exact List.dropWhile_cons_of_neg (by simp [isBlank_head_dropWhile hrest])

theorem trimEnd_trimEnd (cs : List Char) : trimEnd (trimEnd cs) = trimEnd cs := by
  unfold trimEnd
  rw [List.reverse_reverse, dropWhile_dropWhile_isBlank]

theorem trimEnd_cons {c : Char} (hblank : isBlank c = false) (cs : List Char) :
    trimEnd (c :: cs) = c :: trimEnd cs := by
  have hlast : [c].dropWhile isBlank = [c] := List.dropWhile_cons_of_neg (by simp [hblank])
  have hstays : (cs.reverse ++ [c]).dropWhile isBlank = cs.reverse.dropWhile isBlank ++ [c] := by
    rw [List.dropWhile_append]
    split
    · rename_i hnone
      rw [List.isEmpty_iff.1 hnone, hlast, List.nil_append]
    · rfl
  unfold trimEnd
  rw [List.reverse_cons, hstays, List.reverse_append]
  rfl

theorem trim_trim (cs : List Char) : trim (trim cs) = trim cs := by
  have hstart : (trim cs).dropWhile isBlank = trim cs := by
    unfold trim
    cases hrest : cs.dropWhile isBlank with
    | nil => rfl
    | cons c rest =>
      have hblank := isBlank_head_dropWhile hrest
      rw [trimEnd_cons hblank, List.dropWhile_cons_of_neg (by simp [hblank])]
  calc trim (trim cs) = trimEnd ((trim cs).dropWhile isBlank) := rfl
    _ = trimEnd (trimEnd (cs.dropWhile isBlank)) := by rw [hstart]; rfl
    _ = trim cs := trimEnd_trimEnd _

@[simp] theorem strip_strip (s : String) : strip (strip s) = strip s := by
  simp [strip, trim_trim]

end Checkup.Text
