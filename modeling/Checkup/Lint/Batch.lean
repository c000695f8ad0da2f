import Checkup.Total

/-!
# Batches of paths

A command line has a greatest length, so a long list of paths is given to the linter in several
batches. Paths are packed in order, each batch as full as the limit allows; a path that is too long
on its own still makes a batch. The batches together are the list.
-/

namespace Checkup.Lint.Batch

def cost (argument : String) : Nat :=
  argument.length + 1

def length (arguments : List String) : Nat :=
  total cost arguments

def defaultLimit : Int := 24000

/-- Packs the paths, `open` being the batch so far and `used` its length with all that stands
before it. -/
def pack (base : Nat) (limit : Int) (opened : List String) (used : Nat) :
    List String → List (List String)
  | [] => if opened.isEmpty then [] else [opened]
  | path :: rest =>
    if !opened.isEmpty && limit < used + cost path then
      opened :: pack base limit [path] (base + cost path) rest
    else pack base limit (opened ++ [path]) (used + cost path) rest

/-- The batches of the paths, each to follow the base arguments. -/
def ofPaths (base : List String) (limit : Int) (paths : List String) : List (List String) :=
  pack (length base) limit [] (length base) paths

theorem flatten_pack (base : Nat) (limit : Int) (opened : List String) (used : Nat)
    (paths : List String) : (pack base limit opened used paths).flatten = opened ++ paths := by
  induction paths generalizing opened used with
  | nil => by_cases hempty : opened.isEmpty <;> simp_all [pack]
  | cons path rest ih =>
    unfold pack
    split <;> simp [ih]

theorem flatten_ofPaths (base : List String) (limit : Int) (paths : List String) :
    (ofPaths base limit paths).flatten = paths := by
  simp [ofPaths, flatten_pack]

/-- Beside a base without room for more, every path makes a batch of its own. -/
theorem ofPaths_of_limit_le {base : List String} {limit : Int}
    (hlimit : limit ≤ length base) (paths : List String) :
    ofPaths base limit paths = paths.map ([·]) := by
  have hpack (path : String) (rest : List String) :
      pack (length base) limit [path] (length base + cost path) rest =
        [path] :: rest.map ([·]) := by
    induction rest generalizing path with
    | nil => rfl
    | cons next rest ih =>
      have hfull : limit < ↑(length base + cost path + cost next) := by
        unfold cost
        omega
      unfold pack
      rw [if_pos (by simpa using hfull), ih]
      rfl
  cases paths with
  | nil => rfl
  | cons path rest => exact hpack path rest

end Checkup.Lint.Batch
