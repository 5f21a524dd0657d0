/-!
# Legacy numbers of blocks

Before the flattening a block was a number of 12 bits, its block id, with a data value of
four bits.  Eight bits of the block id lie in one layer of the section and four in another.

* `LegacyId.number_decode`    the number that the three layers make;
* `LegacyId.ofNumber_number`  a number is its two parts.
-/

namespace Flattening

structure LegacyId where
  block : Nat
  data : Nat
  deriving DecidableEq, Repr

namespace LegacyId

/-- Of `data` and `add` the low four bits count. -/
def decode (id data add : Nat) : LegacyId := ⟨add % 16 * 256 + id, data % 16⟩

def number (l : LegacyId) : Nat := l.block * 16 + l.data

def ofNumber (n : Nat) : LegacyId := ⟨n / 16, n % 16⟩

theorem number_decode (id data add : Nat) :
    (decode id data add).number = 4096 * (add % 16) + 16 * id + data % 16 := by
  simp only [number, decode]; omega

theorem ofNumber_number {l : LegacyId} (h : l.data < 16) : ofNumber l.number = l := by
  cases l
  simp only [ofNumber, number, LegacyId.mk.injEq] at *
  omega

end LegacyId

namespace Legacy

/-- One block id with its old name.  Each data value that it used has a flattened name and
properties. -/
structure Row where
  id : Nat
  name : String
  states : List (Nat × String × List (String × String))

end Legacy

end Flattening
