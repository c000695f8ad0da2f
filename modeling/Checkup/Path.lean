import Checkup.Text.Search

/-!
# File paths

A path is an anchor and a list of names. Reading a path drops empty names and single dots and keeps
double dots, so two spellings of one path are equal; `normal` also cancels the double dots. All of
this is arithmetic on names: no function here looks at a file system.
-/

namespace Checkup

/-- Where a path starts. Exactly two slashes at the front are kept apart from one. -/
inductive Anchor
  | relative
  | root
  | doubleRoot
  deriving DecidableEq, Repr, Inhabited

structure Path where
  anchor : Anchor
  names : List String
  deriving DecidableEq, Repr, Inhabited

namespace Path

def here : Path :=
  ⟨.relative, []⟩

def root : Path :=
  ⟨.root, []⟩

/-- The anchor of a written path, from the slashes at its front. -/
def anchorOf (cs : List Char) : Anchor :=
  match (cs.takeWhile (· == '/')).length with
  | 0 => .relative
  | 2 => .doubleRoot
  | _ => .root

def namesOf (s : String) : List String :=
  (Text.cutText '/' s).filter fun name => name != "" && name != "."

def ofText (s : String) : Path :=
  ⟨anchorOf s.toList, namesOf s⟩

def anchorText : Anchor → String
  | .relative => ""
  | .root => "/"
  | .doubleRoot => "//"

def text (p : Path) : String :=
  if p.anchor == .relative && p.names.isEmpty then "."
  else anchorText p.anchor ++ String.intercalate "/" p.names

def isAbsolute (p : Path) : Bool :=
  p.anchor != .relative

def join (p q : Path) : Path :=
  if q.isAbsolute then q else ⟨p.anchor, p.names ++ q.names⟩

instance : HDiv Path String Path where
  hDiv p s := p.join (ofText s)

def name (p : Path) : String :=
  p.names.getLast?.getD ""

def parent (p : Path) : Path :=
  { p with names := p.names.dropLast }

def hasNul (p : Path) : Bool :=
  p.names.any (·.toList.contains '\x00')

def beginnings {α : Type} : List α → List (List α)
  | [] => []
  | a :: rest => (beginnings rest).map (a :: ·) ++ [[]]

def parents (p : Path) : List Path :=
  (beginnings p.names).map fun names => { p with names }

/-- One name after the names so far; a double dot takes the last of them away. -/
def climb (names : List String) (name : String) : List String :=
  if name == ".." then names.dropLast else names ++ [name]

/-- The absolute path that `p` names, seen from the directory, with every double dot cancelled. -/
def resolve (directory p : Path) : Path :=
  ⟨.root, (directory.join p).names.foldl climb []⟩

/-- The path from the directory down to `p`, when `p` lies in it. -/
def below? (directory p : Path) : Option Path :=
  if directory.anchor == p.anchor && directory.names.isPrefixOf p.names then
    some ⟨.relative, p.names.drop directory.names.length⟩
  else none

theorem join_of_isAbsolute {p q : Path} (habsolute : q.isAbsolute = true) : p.join q = q := by
  simp [join, habsolute]

theorem join_of_relative {p q : Path} (hrelative : q.isAbsolute = false) :
    p.join q = ⟨p.anchor, p.names ++ q.names⟩ := by
  simp [join, hrelative]

end Path

end Checkup
