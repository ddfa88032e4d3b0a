import PortableFilter.Text.Cluster

/-! # Backspaces

A line may hold backspaces. `obeyBackspaces` gives what the line comes to when
each of them has erased the cluster before it that is still there. -/

namespace PortableFilter.Text

/-- A line that is being typed. -/
structure Typed where
  /-- The characters of the line, last one first. -/
  reversed : List Char := []
  /-- The sizes of the clusters that can be erased, last one first. A size is a number of bytes
  and is held in one byte itself. -/
  sizes : List Nat := []
  deriving DecidableEq, Repr

/-- Drops characters of at most the given number of bytes. -/
def dropBytes (count : Nat) : List Char → List Char
  | [] => []
  | c :: rest => if c.utf8Size ≤ count then dropBytes (count - c.utf8Size) rest else c :: rest

/-- The number of bytes of a text. -/
def byteCount (text : List Char) : Nat := text.foldl (fun count c => count + c.utf8Size) 0

namespace Typed

/-- Erases the last cluster, if there is one. -/
def erase (typed : Typed) : Typed :=
  match typed.sizes with
  | [] => typed
  | size :: sizes => ⟨dropBytes size typed.reversed, sizes⟩

/-- Adds a cluster. -/
def add (typed : Typed) (cluster : List Char) : Typed :=
  ⟨cluster.reverse ++ typed.reversed, byteCount cluster % 256 :: typed.sizes⟩

/-- Takes a cluster: a backspace erases, anything else is added. -/
def take (typed : Typed) (cluster : List Char) : Typed :=
  if cluster = ['\x08'] then typed.erase else typed.add cluster

end Typed

/-- What a line comes to when its backspaces are obeyed. -/
def obeyBackspaces (line : List Char) : List Char :=
  ((clusters line).foldl Typed.take {}).reversed.reverse

end PortableFilter.Text
