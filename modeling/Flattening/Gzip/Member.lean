import Flattening.Gzip.Inflate

/-!
# Gzip members

A member is a header, the compressed bytes, and their checksum with their number.  `unpack`
reads the first member of its input; `pack` writes one whose blocks are stored as they are,
which every reader takes.

* `checksum_nil`   the checksum of nothing is zero;
* `afterText_cons_zero`, `afterText_nil`   a text in a header ends at a zero byte.
-/

namespace Flattening.Gzip

/-! ## the checksum -/

def checksumStep (c : UInt32) (b : UInt8) : UInt32 :=
  (List.range 8).foldl
    (fun c _ => if c &&& 1 = 1 then (c >>> 1) ^^^ 0xedb88320 else c >>> 1) (c ^^^ b.toUInt32)

/-- the cyclic checksum of 32 bits -/
def checksum (bytes : Array UInt8) : UInt32 := bytes.foldl checksumStep 0xffffffff ^^^ 0xffffffff

theorem checksum_nil : checksum #[] = 0 := by decide

/-! ## reading -/

/-- number in two or four bytes, lowest byte first -/
def little : List UInt8 → Nat
  | [] => 0
  | b :: r => b.toNat + 256 * little r

/-- A text in a header has at most this many bytes. -/
def maxText : Nat := 65535

/-- the bytes behind a text that ends in a zero byte, with the number of bytes it may have -/
def afterText : Nat → List UInt8 → Except Stop (List UInt8)
  | _, [] => .error .truncated
  | 0, b :: r => if b = 0 then .ok r else .error .corrupt
  | n + 1, b :: r => if b = 0 then .ok r else afterText n r

theorem afterText_nil (n : Nat) : afterText n [] = .error .truncated := by
  cases n <;> rfl

theorem afterText_cons_zero (n : Nat) (r : List UInt8) : afterText n (0 :: r) = .ok r := by
  cases n <;> rfl

def afterBytes : Nat → List UInt8 → Except Stop (List UInt8)
  | 0, r => .ok r
  | _ + 1, [] => .error .truncated
  | n + 1, _ :: r => afterBytes n r

/-- the bytes behind the optional parts of a header, in their order -/
def afterOptions (flags : UInt8) (s : List UInt8) : Except Stop (List UInt8) := do
  let s ←
    if flags &&& 4 ≠ 0 then
      match s with
      | low :: high :: r => afterBytes (little [low, high]) r
      | _ => .error .truncated
    else .ok s
  let s ← if flags &&& 8 ≠ 0 then afterText maxText s else .ok s
  if flags &&& 16 ≠ 0 then afterText maxText s else .ok s

/-- the bytes behind the header's own check, which is the low half of the checksum of all that
is before it; `s` is where the header starts and `r` where the check may stand -/
def afterCheck (flags : UInt8) (s r : List UInt8) : Except Stop (List UInt8) :=
  if flags &&& 2 ≠ 0 then
    match r with
    | low :: high :: r' =>
      if little [low, high] = (checksum (s.take (s.length - r.length)).toArray).toNat % 65536 then
        .ok r'
      else .error .corrupt
    | _ => .error .truncated
  else .ok r

/-- A header is ten bytes and the parts that its flags announce. -/
def afterHeader (s : List UInt8) : Except Stop (List UInt8) :=
  match s with
  | m1 :: m2 :: method :: flags :: _ :: _ :: _ :: _ :: _ :: _ :: r =>
    if m1 = 0x1f ∧ m2 = 0x8b ∧ method = 8 ∧ flags &&& 0xe0 = 0 then
      match afterOptions flags r with
      | .ok r => afterCheck flags s r
      | .error e => .error e
    else .error .corrupt
  | _ => .error .truncated

/-- the first member: its bytes and how many of them are firm, why they are not all if so, and
what follows the stream -/
structure Member where
  bytes : Array UInt8
  firm : Nat
  stop : Option Stop
  rest : List UInt8

def unpack (s : List UInt8) : Member :=
  match afterHeader s with
  | .ok r =>
    let inflated := inflate s.toArray (s.length - r.length)
    ⟨inflated.bytes, inflated.firm, inflated.stop, s.drop inflated.length⟩
  | .error e => ⟨#[], 0, some e, []⟩

/-- What is found by reading past the bytes: the checksum and the number of bytes must be
there, and be right. -/
def Member.ending (m : Member) : Option Stop :=
  match m.stop with
  | some e => some e
  | none =>
    if m.rest.length < 8 then some .truncated
    else if little (m.rest.take 4) = (checksum m.bytes).toNat ∧
        little ((m.rest.drop 4).take 4) = m.bytes.size % 0x100000000 then none
    else some .corrupt

/-! ## writing -/

def pushLittle : Nat → Nat → Array UInt8 → Array UInt8
  | 0, _, out => out
  | w + 1, n, out => pushLittle w (n / 256) (out.push (UInt8.ofNat n))

/-- Bytes in stored blocks of at most 65535, the last one marked; `rounds` more blocks may
follow. -/
def pushStored (bytes : Array UInt8) : Nat → Nat → Array UInt8 → Array UInt8
  | 0, _, out => out
  | rounds + 1, start, out =>
    let n := min 65535 (bytes.size - start)
    let last := bytes.size ≤ start + n
    let out := out.push (if last then 1 else 0)
    let out := pushLittle 2 (65535 - n) (pushLittle 2 n out)
    let out := out ++ bytes.extract start (start + n)
    if last then out else pushStored bytes rounds (start + n) out

def pack (bytes : Array UInt8) : Array UInt8 :=
  let header := #[0x1f, 0x8b, 8, 0, 0, 0, 0, 0, 0, 255]
  let body := pushStored bytes (bytes.size / 65535 + 1) 0 header
  pushLittle 4 bytes.size (pushLittle 4 (checksum bytes).toNat body)

end Flattening.Gzip
