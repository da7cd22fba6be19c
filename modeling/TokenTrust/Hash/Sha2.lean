/-
# The hash functions SHA-256, SHA-384 and SHA-512

One construction with two word sizes.  A message is padded to whole blocks of sixteen words; each
block is mixed into a state of eight words by a number of rounds; the digest is the front of the
last state.

The constants are no table: they are the first bits of the fractions of square and cube roots of
the first primes, and are computed as that (`fraction`).
-/
import TokenTrust.Number.Octets

namespace TokenTrust
namespace Sha2

/-! ## 1. Constants -/

/-- The first primes, as many as there are rounds at most. -/
def primes : List Nat :=
  (List.range 410).filter fun n => 2 ≤ n && (List.range n).all fun d => d < 2 || n % d != 0

/-- The greatest number of at most `bits` bits, `low` included in it, whose `degree`-th power is
at most `n`. -/
def rootFrom (degree n : Nat) : (bits low : Nat) → Nat
  | 0, low => low
  | bits + 1, low =>
    let next := low + 1 <<< bits
    rootFrom degree n bits (if Nat.pow next degree ≤ n then next else low)

/-- The first `width` bits of the fraction of a root.  The roots asked for are below sixteen. -/
def fraction (width degree n : Nat) : BitVec width :=
  BitVec.ofNat width (rootFrom degree (n <<< (degree * width)) (width + 5) 0)

/-! ## 2. Variants -/

/-- The amounts by which words are rotated; the last of the small ones is a shift. -/
structure Rotations where
  upper₀ : Nat × Nat × Nat
  upper₁ : Nat × Nat × Nat
  lower₀ : Nat × Nat × Nat
  lower₁ : Nat × Nat × Nat

/-- A member of the family. -/
structure Variant where
  /-- Bits of a word. -/
  width : Nat
  rotations : Rotations
  /-- The constant of each round. -/
  constants : List (BitVec width)
  /-- The state before the first block. -/
  start : List (BitVec width)
  /-- Octets of the digest. -/
  digestSize : Nat

def rotations32 : Rotations := ⟨(2, 13, 22), (6, 11, 25), (7, 18, 3), (17, 19, 10)⟩

def rotations64 : Rotations := ⟨(28, 34, 39), (14, 18, 41), (1, 8, 7), (19, 61, 6)⟩

/-- The constants of 64 rounds on short words. -/
def constants32 : List (BitVec 32) := (primes.take 64).map (fraction 32 3)

/-- The constants of 80 rounds on long words. -/
def constants64 : List (BitVec 64) := (primes.take 80).map (fraction 64 3)

def sha256 : Variant :=
  ⟨32, rotations32, constants32, (primes.take 8).map (fraction 32 2), 32⟩

def sha384 : Variant :=
  ⟨64, rotations64, constants64, ((primes.drop 8).take 8).map (fraction 64 2), 48⟩

def sha512 : Variant :=
  ⟨64, rotations64, constants64, (primes.take 8).map (fraction 64 2), 64⟩

/-! ## 3. Rounds -/

variable {w : Nat}

/-- The sum of three rotations. -/
def upper (r : Nat × Nat × Nat) (x : BitVec w) : BitVec w :=
  x.rotateRight r.1 ^^^ x.rotateRight r.2.1 ^^^ x.rotateRight r.2.2

/-- The sum of two rotations and a shift. -/
def lower (r : Nat × Nat × Nat) (x : BitVec w) : BitVec w :=
  x.rotateRight r.1 ^^^ x.rotateRight r.2.1 ^^^ (x >>> r.2.2)

/-- The next word of a schedule of which sixteen words are known. -/
def nextWord (r : Rotations) : List (BitVec w) → BitVec w
  | [w0, w1, _, _, _, _, _, _, _, w9, _, _, _, _, w14, _] =>
    lower r.lower₁ w14 + w9 + lower r.lower₀ w1 + w0
  | _ => 0

/-- One round. -/
def round (r : Rotations) (constant word : BitVec w) : List (BitVec w) → List (BitVec w)
  | [a, b, c, d, e, f, g, h] =>
    let choice := (e &&& f) ^^^ (~~~e &&& g)
    let majority := (a &&& b) ^^^ (a &&& c) ^^^ (b &&& c)
    let t := h + upper r.upper₁ e + choice + constant + word
    [t + upper r.upper₀ a + majority, a, b, c, d + t, e, f, g]
  | state => state

/-- The rounds of a block, one for each constant.  `window` holds the next sixteen words of the
schedule. -/
def rounds (r : Rotations) :
    List (BitVec w) → List (BitVec w) → List (BitVec w) → List (BitVec w)
  | [], _, state => state
  | _ :: _, [], state => state
  | k :: ks, word :: later, state =>
    rounds r ks (later ++ [nextWord r (word :: later)]) (round r k word state)

/-- The state after a block. -/
def compress (r : Rotations) (constants state block : List (BitVec w)) : List (BitVec w) :=
  List.zipWith (· + ·) state (rounds r constants block state)

/-! ## 4. Messages -/

/-- The octets after a message: a one bit, zeros and the length in bits. -/
def padding (v : Variant) (size : Nat) : List UInt8 :=
  let wordSize := v.width / 8
  let zeros := (16 * wordSize - (size + 1 + 2 * wordSize) % (16 * wordSize)) % (16 * wordSize)
  0x80 :: List.replicate zeros 0 ++ Octets.fixed (2 * wordSize) (size * 8)

/-- The first `count` pieces of a list, each of `n` elements. -/
def chunks {α : Type} (n : Nat) : Nat → List α → List (List α)
  | 0, _ => []
  | count + 1, xs => xs.take n :: chunks n count (xs.drop n)

/-- The blocks of a padded message, in words. -/
def blocks (v : Variant) (octets : List UInt8) : List (List (BitVec v.width)) :=
  let wordSize := v.width / 8
  (chunks (16 * wordSize) (octets.length / (16 * wordSize)) octets).map fun block =>
    (chunks wordSize 16 block).map fun word => BitVec.ofNat v.width (Octets.value word)

/-- The digest of a message. -/
def digest (v : Variant) (message : List UInt8) : List UInt8 :=
  let last := (blocks v (message ++ padding v message.length)).foldl
    (compress v.rotations v.constants) v.start
  (last.flatMap fun word => Octets.fixed (v.width / 8) word.toNat).take v.digestSize

end Sha2
end TokenTrust
