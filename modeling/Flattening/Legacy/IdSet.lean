import Flattening.Table

/-!
# Sets of block ids

A block id has twelve bits, and of a longer number only these count.  A set of block ids is one
bit for each of them, in words of 64 bits: the upper half of an id tells the word and the lower
half the bit in it.
-/

namespace Flattening.Legacy

structure IdSet where
  words : Vector UInt64 64

namespace IdSet

def word (id : Nat) : Fin 64 := ⟨id % 4096 / 64, by omega⟩

def bit (id : Nat) : UInt64 := 1 <<< UInt64.ofNat (id % 64)

def empty : IdSet := ⟨Vector.replicate 64 0⟩

def insert (s : IdSet) (id : Nat) : IdSet :=
  ⟨s.words.set (word id).val (s.words.get (word id) ||| bit id) (word id).isLt⟩

def ofIds (ids : List Nat) : IdSet := ids.foldl insert empty

def contains (s : IdSet) (id : Nat) : Bool := s.words.get (word id) &&& bit id != 0

end IdSet

end Flattening.Legacy
