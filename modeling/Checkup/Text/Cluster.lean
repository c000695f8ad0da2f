import Checkup.Text.Width

/-!
# Clusters

A cluster is a character with everything that is shown in its cells: the marks after it, a selector,
and the characters joined to it. A text is cut between clusters only.
-/

namespace Checkup.Text

/-- Characters that are shown together, and the cells they take. -/
structure Cluster where
  characters : List Char
  cells : Nat
  deriving Repr, DecidableEq

namespace Cluster

def attach (cluster : Cluster) (c : Char) (cells : Nat) : Cluster :=
  ⟨cluster.characters ++ [c], cluster.cells + cells⟩

end Cluster

structure Clustering where
  /-- the clusters, the last one first -/
  clusters : List Cluster
  /-- the last character that took cells, unless it was widened already -/
  last : Option Char
  /-- whether the next character is joined to the last cluster -/
  joined : Bool

namespace Clustering

def empty : Clustering := ⟨[], none, false⟩

/-- The clusters with a character put to the last one, or on its own where there is none. -/
def attach (found : Clustering) (c : Char) (cells : Nat) : Clustering :=
  match found.clusters with
  | [] => { found with clusters := [⟨[c], cells⟩] }
  | cluster :: rest => { found with clusters := cluster.attach c cells :: rest }

def add (found : Clustering) (c : Char) : Clustering :=
  if found.joined then { found.attach c 0 with joined := false }
  else if c == joiner then { found.attach c 0 with joined := !found.clusters.isEmpty }
  else if c == emojiSelector then
    if found.last.any fun before => inRanges emojiRanges before.toNat then
      { found.attach c 1 with last := none }
    else found.attach c 0
  else match cellWidth c with
    | 0 => found.attach c 0
    | taken => { found with clusters := ⟨[c], taken⟩ :: found.clusters, last := some c }

end Clustering

def clusters (cs : List Char) : List Cluster :=
  (cs.foldl Clustering.add Clustering.empty).clusters.reverse

def fitting (limit : Nat) : List Cluster → List Char
  | [] => []
  | cluster :: rest =>
    if limit = 0 || limit < cluster.cells then []
    else cluster.characters ++ fitting (limit - cluster.cells) rest

/-- The clusters on lines of at most `limit` cells each; `line` is the text of the current line and
`cells` what it takes. -/
def foldFrom (limit : Nat) (line : List Char) (cells : Nat) : List Cluster → List (List Char)
  | [] => [line]
  | cluster :: rest =>
    if limit < cells + cluster.cells then
      line :: foldFrom limit cluster.characters cluster.cells rest
    else foldFrom limit (line ++ cluster.characters) (cells + cluster.cells) rest

def fold (limit : Nat) (cs : List Char) : List (List Char) :=
  (foldFrom limit [] 0 (clusters cs)).filter (!·.isEmpty)

end Checkup.Text
