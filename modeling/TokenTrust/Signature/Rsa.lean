/-
# Signatures of RSA

Keys of RSA with the bounds that are put on their numbers, and the signature scheme that pads a
digest with ones.

Verification does not take the padding apart.  It builds the one encoded message that belongs to
the digest and compares, so nothing can hide in the padding.
-/
import TokenTrust.Hash.Sha2
import TokenTrust.Number.Modular

namespace TokenTrust
namespace Rsa

/-! ## 1. Keys -/

/-- The numbers of a key. -/
structure Numbers where
  modulus : Nat
  exponent : Nat
  deriving DecidableEq, Repr

/-- Why two numbers are no key. -/
inductive Fault where
  | modulusTooLarge
  | exponentTooLarge
  | modulus
  | exponent
  | exponentTooSmall
  deriving DecidableEq, Repr

/-- The wording of a fault. -/
def Fault.message : Fault → String
  | .modulusTooLarge => "modulus too large"
  | .exponentTooLarge => "public exponent too large"
  | .modulus => "invalid modulus"
  | .exponent => "invalid exponent"
  | .exponentTooSmall => "public exponent too small"

/-- The greatest number of bits of a modulus. -/
def maxModulusBits : Nat := 4096

/-- The key of two numbers.  The first bound that is broken is reported. -/
def Numbers.check (k : Numbers) : Except Fault Numbers := do
  if 1 <<< maxModulusBits ≤ k.modulus then throw .modulusTooLarge
  if 1 <<< 64 ≤ k.exponent then throw .exponentTooLarge
  if k.modulus ≤ k.exponent ∨ k.modulus % 2 = 0 then throw .modulus
  if k.exponent % 2 = 0 then throw .exponent
  if k.exponent < 2 then throw .exponentTooSmall
  if 1 <<< 33 ≤ k.exponent then throw .exponentTooLarge
  return k

/-- How many octets a signature has. -/
def Numbers.size (k : Numbers) : Nat :=
  Octets.size k.modulus

/-! ## 2. Signatures -/

/-- The hash functions a digest may come from. -/
inductive Hash where
  | sha256
  | sha384
  | sha512
  deriving DecidableEq, Repr

/-- The hash function. -/
def Hash.variant : Hash → Sha2.Variant
  | .sha256 => Sha2.sha256
  | .sha384 => Sha2.sha384
  | .sha512 => Sha2.sha512

/-- What stands before a digest: the structure that names the hash function. -/
def Hash.announcement : Hash → List UInt8
  | .sha256 => announce 49 1 32
  | .sha384 => announce 65 2 48
  | .sha512 => announce 81 3 64
where
  announce (size function digestSize : UInt8) : List UInt8 :=
    [0x30, size, 0x30, 13, 0x06, 9, 0x60, 0x86, 0x48, 0x01, 0x65, 0x03, 0x04, 0x02, function,
      0x05, 0, 0x04, digestSize]

/-- The encoded message of a given size, which needs room for eight octets of padding. -/
def encoded? (h : Hash) (message : List UInt8) (size : Nat) : Option (List UInt8) :=
  let tail := h.announcement ++ Sha2.digest h.variant message
  if size < tail.length + 11 then none
  else some (0x00 :: 0x01 :: List.replicate (size - tail.length - 3) 0xFF ++ 0x00 :: tail)

/-- Whether octets are a signature of a message under a key. -/
def accepts (h : Hash) (key : Numbers) (message signature : List UInt8) : Bool :=
  let s := Octets.value signature
  signature.length == key.size && decide (s < key.modulus) &&
    encoded? h message key.size ==
      some (Octets.fixed key.size (Modular.pow key.modulus s key.exponent))

end Rsa
end TokenTrust
