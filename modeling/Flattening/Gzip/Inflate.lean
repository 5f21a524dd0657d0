import Flattening.Gzip.Code

/-!
# Inflating: the compressed blocks

A stream of bits, lowest bit of each byte first, holds blocks that are stored as they are or
written in codes.  Decoding goes on until the last block, until the bits run out, or until
something has no meaning.

The input is taken in pieces of 32768 bytes, and so is the output.  Decoded bytes are given
out when a piece of input is used up and when a byte more than a piece of output has to be
written; those that were not given out are lost when something has no meaning.  When the bits
run out, what was written after the last byte of input had been taken is loose: only the
request that first needs it can have it.

Each round of a loop takes at least one bit, so the number of bits bounds all of them.

* `bit_of_end`   past the end there are no bits;
* `given_push`   a byte that is written does not give out itself;
* `firm_of_not_spent`   output is firm unless the input was all taken before its last piece;
* `behind_of_lt`   a copy that reaches before the first byte finds zeros.
-/

namespace Flattening.Gzip

/-- why decoding stopped before the last block ended -/
inductive Stop where
  | truncated
  | corrupt
  deriving DecidableEq, Repr

def pieceSize : Nat := 32768

structure Progress where
  input : Array UInt8
  /-- number of bits taken -/
  taken : Nat
  out : Array UInt8
  /-- number of bytes given out -/
  given : Nat
  /-- The input was all taken when the last piece of output was full. -/
  isSpent : Bool

/-- one more byte of output -/
def Progress.push : Progress → UInt8 → Progress
  | ⟨input, taken, out, given, isSpent⟩, b =>
    if out.size % pieceSize = 0 ∧ 0 < out.size then
      ⟨input, taken, out.push b, out.size, input.size ≤ (taken + 7) / 8⟩
    else ⟨input, taken, out.push b, given, isSpent⟩

theorem given_push (p : Progress) (b : UInt8) :
    (p.push b).given =
      if p.out.size % pieceSize = 0 ∧ 0 < p.out.size then p.out.size else p.given := by
  obtain ⟨input, taken, out, given, isSpent⟩ := p
  by_cases h : out.size % pieceSize = 0 ∧ 0 < out.size
  · rw [if_pos h, Progress.push, if_pos h]
  · rw [if_neg h, Progress.push, if_neg h]

/-- one bit less of input -/
def Progress.advance : Progress → Progress
  | ⟨input, taken, out, given, isSpent⟩ =>
    let given := if taken % (8 * pieceSize) = 0 then out.size else given
    ⟨input, taken + 1, out, given, isSpent⟩

/-- number of bytes that are not loose -/
def Progress.firm (p : Progress) : Nat := if p.isSpent then p.given else p.out.size

theorem firm_of_not_spent (p : Progress) (h : p.isSpent = false) : p.firm = p.out.size := by
  simp [Progress.firm, h]

abbrev Inflate := EStateM Stop Progress

namespace Inflate

/-! ## bits -/

def bit : Inflate Bool := fun p =>
  match p.input[p.taken / 8]? with
  | some b => .ok (b.toNat.testBit (p.taken % 8)) p.advance
  | none => .error .truncated p

theorem bit_of_end (p : Progress) (h : p.input[p.taken / 8]? = none) :
    bit p = .error .truncated p := by
  simp [bit, h]

/-- a number of `n` bits, lowest first -/
def number : Nat → Inflate Nat
  | 0 => return 0
  | n + 1 => do
    let b ← bit
    let r ← number n
    return b.toNat + 2 * r

def symbol : Code → Inflate Nat
  | .gap => throw .corrupt
  | .leaf s => return s
  | .branch z o => do if ← bit then symbol o else symbol z

def alignToByte : Inflate Unit := modify fun p => { p with taken := (p.taken + 7) / 8 * 8 }

def emit (b : UInt8) : Inflate Unit := modify fun p => p.push b

/-! ## copies -/

/-- the byte `distance` back from the end -/
def behind (out : Array UInt8) (distance : Nat) : UInt8 :=
  if distance ≤ out.size then out[out.size - distance]?.getD 0 else 0

theorem behind_of_lt (out : Array UInt8) (d : Nat) (h : out.size < d) : behind out d = 0 := by
  simp [behind, Nat.not_le.2 h]

def copy (distance : Nat) : Nat → Inflate Unit
  | 0 => return ()
  | n + 1 => do
    modify fun p =>
      let b := behind p.out distance
      p.push b
    copy distance n

/-- least length and number of extra bits, from symbol 257 on -/
def lengthRow : List (Nat × Nat) :=
  [(3, 0), (4, 0), (5, 0), (6, 0), (7, 0), (8, 0), (9, 0), (10, 0), (11, 1), (13, 1), (15, 1),
   (17, 1), (19, 2), (23, 2), (27, 2), (31, 2), (35, 3), (43, 3), (51, 3), (59, 3), (67, 4),
   (83, 4), (99, 4), (115, 4), (131, 5), (163, 5), (195, 5), (227, 5), (258, 0)]

/-- least distance and number of extra bits -/
def distanceRow : List (Nat × Nat) :=
  [(1, 0), (2, 0), (3, 0), (4, 0), (5, 1), (7, 1), (9, 2), (13, 2), (17, 3), (25, 3), (33, 4),
   (49, 4), (65, 5), (97, 5), (129, 6), (193, 6), (257, 7), (385, 7), (513, 8), (769, 8),
   (1025, 9), (1537, 9), (2049, 10), (3073, 10), (4097, 11), (6145, 11), (8193, 12),
   (12289, 12), (16385, 13), (24577, 13)]

def ranged (row : List (Nat × Nat)) (i : Nat) : Inflate Nat :=
  match row[i]? with
  | some (least, extra) => return least + (← number extra)
  | none => throw .corrupt

/-! ## blocks -/

/-- the symbols of a block up to its end mark -/
def symbols (literal distance : Code) : Nat → Inflate Unit
  | 0 => throw .truncated
  | n + 1 => do
    let s ← symbol literal
    if s < 256 then
      emit (UInt8.ofNat s)
      symbols literal distance n
    else if s = 256 then return ()
    else
      let l ← ranged lengthRow (s - 257)
      let d ← ranged distanceRow (← symbol distance)
      copy d l
      symbols literal distance n

def storedBytes : Nat → Inflate Unit
  | 0 => return ()
  | n + 1 => do
    emit (UInt8.ofNat (← number 8))
    storedBytes n

def stored : Inflate Unit := do
  alignToByte
  let n ← number 16
  let check ← number 16
  if n + check = 65535 then storedBytes n else throw .corrupt

def fixedLengths : List Nat :=
  List.replicate 144 8 ++ List.replicate 112 9 ++ List.replicate 24 7 ++ List.replicate 8 8

def orderOfLengths : List Nat :=
  [16, 17, 18, 0, 8, 7, 9, 6, 10, 5, 11, 4, 12, 3, 13, 2, 14, 1, 15]

def numbers (width : Nat) : Nat → Inflate (List Nat)
  | 0 => return []
  | n + 1 => do
    let a ← number width
    let r ← numbers width n
    return a :: r

/-- a code of literals or distances -/
def codeOf (lengths : List Nat) : Inflate Code :=
  if Code.fills lengths || Code.isSparse lengths then return .ofLengths lengths
  else throw .corrupt

/-- the code of the lengths themselves; it must fill its tree -/
def lengthCodeOf (lengths : List Nat) : Inflate Code :=
  if Code.fills lengths then return .ofLengths lengths else throw .corrupt

/-- `count` lengths, written with repetitions -/
def lengths (code : Code) (count : Nat) : Nat → Array Nat → Inflate (Array Nat)
  | 0, _ => throw .truncated
  | n + 1, so =>
    if so.size = count then return so
    else if count < so.size then throw .corrupt
    else do
      let s ← symbol code
      if s < 16 then lengths code count n (so.push s)
      else if s = 16 then
        match so.back? with
        | none => throw .corrupt
        | some l =>
          let r ← number 2
          lengths code count n (so ++ Array.replicate (r + 3) l)
      else if s = 17 then
        let r ← number 3
        lengths code count n (so ++ Array.replicate (r + 3) 0)
      else
        let r ← number 7
        lengths code count n (so ++ Array.replicate (r + 11) 0)

/-- the codes of a block that brings its own -/
def ownCodes : Inflate (Code × Code) := do
  let literals := 257 + (← number 5)
  let distances := 1 + (← number 5)
  let given := 4 + (← number 4)
  if literals > 286 ∨ distances > 30 then throw .corrupt
  let pairs := orderOfLengths.zip (← numbers 3 given)
  let lengthCode ← lengthCodeOf ((List.range 19).map fun i => (pairs.lookup i).getD 0)
  let all ← lengths lengthCode (literals + distances) (literals + distances + 1) #[]
  let literalCode ← codeOf (all.toList.take literals)
  let distanceCode ← codeOf (all.toList.drop literals)
  return (literalCode, distanceCode)

def block (rounds kind : Nat) : Inflate Unit := do
  if kind = 0 then stored
  else if kind = 1 then
    symbols (← codeOf fixedLengths) (← codeOf (List.replicate 32 5)) rounds
  else if kind = 2 then
    let (l, d) ← ownCodes
    symbols l d rounds
  else throw .corrupt

def blocks (rounds : Nat) : Nat → Inflate Unit
  | 0 => throw .truncated
  | n + 1 => do
    let last ← bit
    block rounds (← number 2)
    if last then return () else blocks rounds n

end Inflate

/-- What a compressed stream gives: its bytes as far as they are given out, how many of them
are firm, why decoding stopped early if it did, and the number of input bytes up to the end of
the last block. -/
structure Inflated where
  bytes : Array UInt8
  firm : Nat
  stop : Option Stop
  length : Nat

/-- Decodes the stream that starts at byte `start`. -/
def inflate (input : Array UInt8) (start : Nat) : Inflated :=
  let rounds := 8 * input.size + 1
  match Inflate.blocks rounds rounds ⟨input, 8 * start, #[], 0, false⟩ with
  | .ok _ p => ⟨p.out, p.out.size, none, (p.taken + 7) / 8⟩
  | .error .truncated p => ⟨p.out, p.firm, some .truncated, input.size⟩
  | .error .corrupt p => ⟨p.out.extract 0 p.given, p.given, some .corrupt, input.size⟩

end Flattening.Gzip
