/-
# Base64

Both alphabets, with or without padding.  `encode` writes the one canonical unpadded form;
`decode` reads it and refuses everything else, so a byte string has one written form: unused
low bits of the last symbol have to be zero, and nothing outside the alphabet is skipped.

A refusal names the first offence and where it is.  Two rules are older than the scan:

* when one symbol is left over (the length is 1 modulo 4), a last octet that is no symbol is
  reported before any earlier offence;
* the last group is read as a whole, so that its padding can be judged.
-/

namespace TokenTrust
namespace Base64

/-! ## 1. Alphabets -/

/-- The two alphabets differ in the symbols of 62 and 63. -/
inductive Alphabet where
  /-- `+` and `/`. -/
  | standard
  /-- `-` and `_`. -/
  | urlSafe
  deriving DecidableEq, Repr

/-- What is asked of the padding at the end. -/
inductive Padding where
  /-- No padding at all. -/
  | none
  /-- As much as fills the last group. -/
  | canonical
  deriving DecidableEq, Repr

/-- The octet of `=`. -/
def padOctet : UInt8 := 61

/-- The octet that stands for a six-bit value. -/
def Alphabet.symbol (a : Alphabet) (v : Nat) : UInt8 :=
  if v < 26 then (65 + v).toUInt8
  else if v < 52 then (97 + (v - 26)).toUInt8
  else if v < 62 then (48 + (v - 52)).toUInt8
  else match a with
    | .standard => if v = 62 then 43 else 47
    | .urlSafe => if v = 62 then 45 else 95

/-- The six-bit value of an octet of the alphabet. -/
def Alphabet.value? (a : Alphabet) (b : UInt8) : Option Nat :=
  let n := b.toNat
  if 65 ≤ n ∧ n ≤ 90 then some (n - 65)
  else if 97 ≤ n ∧ n ≤ 122 then some (n - 97 + 26)
  else if 48 ≤ n ∧ n ≤ 57 then some (n - 48 + 52)
  else match a with
    | .standard => if n = 43 then some 62 else if n = 47 then some 63 else none
    | .urlSafe => if n = 45 then some 62 else if n = 95 then some 63 else none

/-! ## 2. Refusals -/

/-- Why a text is not base64. -/
inductive Fault where
  /-- An octet outside the alphabet, or padding where none belongs. -/
  | symbol (octet : UInt8) (offset : Nat)
  /-- One symbol is left over: six bits make no octet. -/
  | length (n : Nat)
  /-- The last symbol carries bits that belong to no octet. -/
  | lastSymbol (octet : UInt8) (offset : Nat)
  /-- Padding does not fill the last group. -/
  | padding
  deriving DecidableEq, Repr

/-- The wording of a refusal. -/
def Fault.message : Fault → String
  | .symbol b i => s!"Invalid symbol {b.toNat}, offset {i}."
  | .length n => s!"Invalid input length: {n}"
  | .lastSymbol b i => s!"Invalid last symbol {b.toNat}, offset {i}."
  | .padding => "Invalid padding"

/-! ## 3. Writing -/

/-- The canonical unpadded form of a byte string. -/
def encode (a : Alphabet) : List UInt8 → List UInt8
  | x :: y :: z :: rest =>
    let n := x.toNat * 65536 + y.toNat * 256 + z.toNat
    a.symbol (n / 262144) :: a.symbol (n / 4096 % 64) :: a.symbol (n / 64 % 64) ::
      a.symbol (n % 64) :: encode a rest
  | [x, y] =>
    let n := x.toNat * 1024 + y.toNat * 4
    [a.symbol (n / 4096), a.symbol (n / 64 % 64), a.symbol (n % 64)]
  | [x] => [a.symbol (x.toNat / 4), a.symbol (x.toNat % 4 * 16)]
  | [] => []

/-- A form without padding, padded to whole groups. -/
def padded (bs : List UInt8) : List UInt8 :=
  bs ++ List.replicate ((4 - bs.length % 4) % 4) padOctet

/-! ## 4. Reading -/

/-- The value of the octet at `offset`. -/
def symbolAt (a : Alphabet) (offset : Nat) (b : UInt8) : Except Fault Nat :=
  match a.value? b with
  | some v => .ok v
  | none => .error (.symbol b offset)

/-- The values of consecutive octets, the first of which is at `offset`. -/
def symbolsFrom (a : Alphabet) : Nat → List UInt8 → Except Fault (List Nat)
  | _, [] => .ok []
  | offset, b :: bs => do
    let v ← symbolAt a offset b
    let vs ← symbolsFrom a (offset + 1) bs
    return v :: vs

/-- The octets of the last group, and the bits left over after them. -/
def lastOctets : List Nat → List UInt8 × Nat
  | [v, w, x, y] =>
    let n := v * 262144 + w * 4096 + x * 64 + y
    ([(n / 65536).toUInt8, (n / 256 % 256).toUInt8, (n % 256).toUInt8], 0)
  | [v, w, x] =>
    let n := v * 4096 + w * 64 + x
    ([(n / 1024).toUInt8, (n / 4 % 256).toUInt8], n % 4)
  | [v, w] =>
    let n := v * 64 + w
    ([(n / 16).toUInt8], n % 16)
  | _ => ([], 0)

/-- Reads the last group: at most four octets, symbols and then padding. -/
def decodeLast (a : Alphabet) (pad : Padding) (offset : Nat) (bs : List UInt8) :
    Except Fault (List UInt8) := do
  let head := bs.takeWhile (· != padOctet)
  let rest := bs.dropWhile (· != padOctet)
  let vs ← symbolsFrom a offset head
  if !rest.isEmpty && (head.length < 2 || rest.any (· != padOctet)) then
    throw (.symbol padOctet (offset + head.length))
  if !bs.isEmpty && head.length < 2 then
    throw (.length (offset + head.length))
  match pad with
  | .none => if !rest.isEmpty then throw .padding
  | .canonical => if bs.length % 4 ≠ 0 then throw .padding
  let (octets, left) := lastOctets vs
  match head.getLast? with
  | some last => if left ≠ 0 then throw (.lastSymbol last (offset + head.length - 1))
  | none => pure ()
  return octets

/-- Reads the groups from `offset` on.  A group of four with something after it is not the
last one. -/
def decodeFrom (a : Alphabet) (pad : Padding) (offset : Nat) :
    List UInt8 → Except Fault (List UInt8)
  | b :: c :: d :: e :: f :: rest => do
    let v ← symbolAt a offset b
    let w ← symbolAt a (offset + 1) c
    let x ← symbolAt a (offset + 2) d
    let y ← symbolAt a (offset + 3) e
    let octets ← decodeFrom a pad (offset + 4) (f :: rest)
    return (lastOctets [v, w, x, y]).1 ++ octets
  | bs => decodeLast a pad offset bs

/-- The byte string that a text stands for. -/
def decode (a : Alphabet) (pad : Padding) (bs : List UInt8) : Except Fault (List UInt8) :=
  match bs.getLast? with
  | some last =>
    if bs.length % 4 = 1 ∧ last ≠ padOctet ∧ a.value? last = none then
      .error (.symbol last (bs.length - 1))
    else decodeFrom a pad 0 bs
  | none => decodeFrom a pad 0 bs

end Base64
end TokenTrust
