/-!
# Bytes: whole numbers, most significant byte first

`bigEndian w n` is the number `n` in `w` bytes; `pushWord` writes it behind the bytes so far
and `takeWord` reads it back.

* `pushWord_toList`       writing appends `bigEndian w n`;
* `length_bigEndian`      which has `w` bytes;
* `takeWord_add`          a long word is read in two parts.
-/

namespace Flattening

def bigEndian : Nat → Nat → List UInt8
  | 0, _ => []
  | w + 1, n => bigEndian w (n / 256) ++ [UInt8.ofNat n]

theorem bigEndian_zero (n : Nat) : bigEndian 0 n = [] := rfl
theorem bigEndian_succ (w n : Nat) :
    bigEndian (w + 1) n = bigEndian w (n / 256) ++ [UInt8.ofNat n] := rfl

theorem length_bigEndian (w n : Nat) : (bigEndian w n).length = w := by
  induction w generalizing n with
  | zero => rfl
  | succ w ih => simp [bigEndian_succ, ih]

def pushWord : Nat → Nat → Array UInt8 → Array UInt8
  | 0, _, out => out
  | w + 1, n, out => (pushWord w (n / 256) out).push (UInt8.ofNat n)

theorem pushWord_toList (w n : Nat) (out : Array UInt8) :
    (pushWord w n out).toList = out.toList ++ bigEndian w n := by
  induction w generalizing n with
  | zero => simp [pushWord, bigEndian_zero]
  | succ w ih => simp [pushWord, bigEndian_succ, ih]

/-- `so` is the number read so far; `none` when the bytes run out -/
def takeWord : Nat → Nat → List UInt8 → Option (Nat × List UInt8)
  | 0, so, s => some (so, s)
  | _ + 1, _, [] => none
  | w + 1, so, b :: s => takeWord w (so * 256 + b.toNat) s

theorem takeWord_zero (so : Nat) (s : List UInt8) : takeWord 0 so s = some (so, s) := by
  simp [takeWord]

theorem takeWord_succ_nil (w so : Nat) : takeWord (w + 1) so [] = none := rfl

theorem takeWord_succ_cons (w so : Nat) (b : UInt8) (s : List UInt8) :
    takeWord (w + 1) so (b :: s) = takeWord w (so * 256 + b.toNat) s := rfl

theorem takeWord_add (u v so : Nat) (s : List UInt8) :
    takeWord (u + v) so s = (takeWord u so s).bind fun p => takeWord v p.1 p.2 := by
  induction u generalizing so s with
  | zero => simp [takeWord_zero]
  | succ u ih =>
    rw [Nat.add_right_comm]
    cases s with
    | nil => simp [takeWord_succ_nil]
    | cons b s => simp [takeWord_succ_cons, ih]

end Flattening
